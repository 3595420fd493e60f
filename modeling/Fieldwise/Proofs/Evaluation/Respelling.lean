import Fieldwise.Proofs.Evaluation.Precision
import Mathlib.Algebra.Order.BigOperators.Group.List
import Mathlib.Algebra.Order.Group.Nat

/-!
Respelled formats. Two formats may write the same components in a different order and with different
texts between them. A text of the one and the text of the same components in the other are then read
alike or both refused, whatever the components are, and a typed date is seen alike through both. So two
rules that differ only in the spelling of their format, and of the anchor that is written in it, pass and
fail the same.
-/

namespace Fieldwise

/-! ### Texts of the same pieces -/

/-- Where no piece of the one text is longer than that of the other, equal texts have equal pieces. -/
theorem eq_of_flatMap_eq {α β : Type} {xs : List α} {u v : α → List β}
    (hlength : ∀ x ∈ xs, (u x).length ≤ (v x).length) (h : xs.flatMap v = xs.flatMap u) :
    ∀ x ∈ xs, v x = u x := by
  induction xs with
  | nil => exact fun x hx => absurd hx List.not_mem_nil
  | cons x xs ih =>
    rw [List.forall_mem_cons] at hlength
    rw [List.flatMap_cons, List.flatMap_cons] at h
    have hrest : (xs.flatMap u).length ≤ (xs.flatMap v).length := by
      rw [List.length_flatMap, List.length_flatMap]
      exact List.sum_le_sum hlength.2
    have htotal := congrArg List.length h
    rw [List.length_append, List.length_append] at htotal
    obtain ⟨hx, hxs⟩ := List.append_inj h (by omega)
    exact List.forall_mem_cons.mpr ⟨hx, ih hlength.2 hxs⟩

namespace FormatToken
variable {p q : PartialDate} {c : Component}

theorem width_le_length_write (p : PartialDate) (c : Component) :
    c.width ≤ (write p (component c)).length := by
  have hpadded : ∀ width n, width ≤ (Numeral.padded width n).length := by
    intro width n
    rw [Numeral.padded_eq, List.length_append, List.length_replicate]
    omega
  cases c <;> exact hpadded _ _

theorem length_write_of_fits (h : p.Fits c) : (write p (component c)).length = c.width := by
  obtain ⟨n, hget, hlt⟩ := h
  rw [write_component hget, Numeral.length_padded c.width_pos hlt]

end FormatToken

namespace DateFormat
variable {f g : DateFormat} {p q : PartialDate}

/-- Whatever components are written, those that are read are written the same, one by one. -/
theorem readComponents_writeComponents_eq_ok_iff :
    f.readComponents (f.writeComponents p) = .ok q ↔
      f.Fits q ∧ ∀ c ∈ f.components,
        FormatToken.write p (.component c) = FormatToken.write q (.component c) := by
  rw [readComponents_eq_ok_iff]
  refine and_congr_right fun hfits => ⟨fun h c hc => ?_, fun h => ?_⟩
  · refine eq_of_flatMap_eq (fun token htoken => ?_) h _ (mem_components_iff.mp hc)
    cases token with
    | literal l => exact le_rfl
    | component c =>
      rw [FormatToken.length_write_of_fits (hfits.known c (mem_components_iff.mpr htoken))]
      exact FormatToken.width_le_length_write p c
  · refine List.flatMap_congr fun token htoken => ?_
    cases token with
    | literal l => rfl
    | component c => exact h c (mem_components_iff.mpr htoken)

/-! ### The same components -/

/-- The formats write the same components, in any order and with any text between them. -/
def SameComponents (f g : DateFormat) : Prop := ∀ c, f.has c = g.has c

namespace SameComponents

theorem symm (h : f.SameComponents g) : g.SameComponents f := fun c => (h c).symm

theorem mem_components_iff (h : f.SameComponents g) {c : Component} :
    c ∈ f.components ↔ c ∈ g.components := by
  rw [← has_iff, ← has_iff, h c]

theorem granularity_eq (h : f.SameComponents g) : f.granularity = g.granularity := by
  simp only [granularity, h _]

theorem fits_iff (h : f.SameComponents g) : f.Fits p ↔ g.Fits p := by
  simp only [fits_iff_get?, h _]

/-- A typed date is seen alike through both formats. -/
theorem project_eq (h : f.SameComponents g) (d : Date) (year : Int) :
    f.project d year = g.project d year := by
  have hcomponents : f.componentsOf d = g.componentsOf d := by simp only [componentsOf, h _]
  rw [DateFormat.project_eq, DateFormat.project_eq, hcomponents, h.granularity_eq]

/-- What is read where one format has written is read where the other has. -/
theorem readComponents_iff (h : f.SameComponents g) :
    f.readComponents (f.writeComponents p) = .ok q ↔
      g.readComponents (g.writeComponents p) = .ok q := by
  simp only [readComponents_writeComponents_eq_ok_iff, h.fits_iff, h.mem_components_iff]

theorem readPeriod_of_readPeriod (h : f.SameComponents g) {year : Int} {period : Period}
    (hread : f.readPeriod (f.writeComponents p) year = .ok period) :
    g.readPeriod (g.writeComponents p) year = .ok period := by
  obtain ⟨q, hq⟩ := exists_readComponents_of_readPeriod hread
  rw [readPeriod_of_readComponents hq] at hread
  rw [readPeriod_of_readComponents (h.readComponents_iff.mp hq), ← h.granularity_eq, hread]

theorem readPeriod_eq_ok_iff (h : f.SameComponents g) {year : Int} {period : Period} :
    f.readPeriod (f.writeComponents p) year = .ok period ↔
      g.readPeriod (g.writeComponents p) year = .ok period :=
  ⟨h.readPeriod_of_readPeriod, h.symm.readPeriod_of_readPeriod⟩

end SameComponents

end DateFormat

/-! ### Rules -/

/-- What is written in an anchor, if it is not the current date. -/
def Anchor.components? : Anchor → Option PartialDate
  | now => none
  | literal _ p => some p

/-- Whether the value has passed, if it is judged at all. -/
def Evaluation.passed? : Evaluation → Option Bool
  | skipped => none
  | passed => some true
  | failed _ => some false

namespace DateComparison
variable {f g : DateFormat} {a b : Anchor}

theorem target_eq_of_sameComponents (h : f.SameComponents g) (hanchor : a.components? = b.components?)
    (offset : Offset) (today : Date) (year : Int) :
    (DateComparison.mk f a offset).target today year = (DateComparison.mk g b offset).target today year := by
  have hperiod : a.period f today year = b.period g today year := by
    cases a <;> cases b <;> cases hanchor
    · exact h.project_eq today year
    · simp only [Anchor.period, h.granularity_eq]
  simp only [target, hperiod, h.granularity_eq]

end DateComparison

namespace RuleSpec
variable {c c' : DateComparison} {direction : Direction} {value value' : FieldValue}
  {context : EvaluationContext}

theorem passed?_evaluate_date (hvalue : value.isNull = false) :
    ((date direction c).evaluate value context).passed? =
      some (decide ((date direction c).evaluate value context = .passed)) := by
  by_cases hpassed : (date direction c).evaluate value context = .passed
  · simp [hpassed, Evaluation.passed?]
  · rw [(evaluate_date_eq_failed_iff hvalue).mpr hpassed]
    rfl

/-- Two comparisons with one target judge two values alike that name the same period or none. -/
theorem passed?_evaluate_date_congr (hvalue : value.isNull = false) (hvalue' : value'.isNull = false)
    (htarget : c.target context.today context.referenceYear =
      c'.target context.today context.referenceYear)
    (hperiod : ∀ p, c.format.periodOf value context.referenceYear = .ok p ↔
      c'.format.periodOf value' context.referenceYear = .ok p) :
    ((date direction c).evaluate value context).passed? =
      ((date direction c').evaluate value' context).passed? := by
  have hpassed : (date direction c).evaluate value context = .passed ↔
      (date direction c').evaluate value' context = .passed := by
    simp only [evaluate_date_eq_passed_iff, htarget, hperiod]
  rw [passed?_evaluate_date hvalue, passed?_evaluate_date hvalue', decide_eq_decide.mpr hpassed]

end RuleSpec

/-- Two rules whose formats write the same components, and whose anchors are both the current date or
    have the same components, pass and fail the same: what the one format writes and what the other
    writes for the same components, be they a date or not, and every date, with a time of day or
    without. -/
theorem RuleSpec.respelled_rules_agree {f g : DateFormat} (h : f.SameComponents g) {a b : Anchor}
    (hanchor : a.components? = b.components?) (direction : Direction) (offset : Offset)
    (context : EvaluationContext) :
    (∀ p : PartialDate,
      ((date direction ⟨f, a, offset⟩).evaluate (.text (String.ofList (f.writeComponents p)))
          context).passed? =
        ((date direction ⟨g, b, offset⟩).evaluate (.text (String.ofList (g.writeComponents p)))
          context).passed?) ∧
    ∀ value : FieldValue, value.typedDate?.isSome = true →
      ((date direction ⟨f, a, offset⟩).evaluate value context).passed? =
        ((date direction ⟨g, b, offset⟩).evaluate value context).passed? := by
  have htarget := DateComparison.target_eq_of_sameComponents h hanchor offset
  constructor
  · intro p
    refine passed?_evaluate_date_congr rfl rfl (htarget _ _) fun period => ?_
    simp only [DateFormat.periodOf, String.toList_ofList]
    exact h.readPeriod_eq_ok_iff
  · intro value hvalue
    obtain ⟨d, hd⟩ := Option.isSome_iff_exists.mp hvalue
    have hnull := FieldValue.isNull_of_typedDate hd
    refine passed?_evaluate_date_congr hnull hnull (htarget _ _) fun period => ?_
    rw [DateFormat.periodOf_of_typedDate hd, DateFormat.periodOf_of_typedDate hd, h.project_eq]

/-- Two months after the end of 2023, with the day in front and with the year in front and digits in
    between: the first of March lies after it, and the thirtieth of February is refused. -/
theorem RuleSpec.end_of_february_respelled :
    ∃ c c', parse "dateAfter:DD/MM/YYYY:31/12/2023:2:months" = .ok (.date .after c) ∧
      parse "dateAfter:YYYY00MM→DD:20230012→31:2:months" = .ok (.date .after c') ∧
      ((date .after c).evaluate (.text "01/03/2024") ⟨.first, 2000⟩).passed? = some true ∧
      ((date .after c').evaluate (.text "20240003→01") ⟨.first, 2000⟩).passed? = some true ∧
      ((date .after c').evaluate (.text "20240002→30") ⟨.first, 2000⟩).passed? = some false ∧
      ((date .after c').evaluate (.dateTime ⟨⟨2024, 2, 29, by decide⟩, 23, 59, 59, 0⟩)
        ⟨.first, 2000⟩).passed? = some false := by
  let f : DateFormat := ⟨[.component .day, .literal ['/'], .component .month, .literal ['/'],
    .component .year], by decide, by decide, by decide⟩
  let g : DateFormat := ⟨[.component .year, .literal ['0', '0'], .component .month, .literal ['→'],
    .component .day], by decide, by decide, by decide⟩
  let a : Anchor := .literal "31/12/2023".toList ⟨some 2023, some 12, some 31⟩
  let b : Anchor := .literal "20230012→31".toList ⟨some 2023, some 12, some 31⟩
  have hcomponents : f.SameComponents g := fun c => by cases c <;> decide
  have hwritten : ∀ p text, g.writeComponents p = text.toList →
      String.ofList (g.writeComponents p) = text := by
    intro p text h
    rw [h, String.ofList_toList]
  obtain ⟨htexts, hdates⟩ := @respelled_rules_agree f g hcomponents a b rfl .after ⟨2, .months⟩
    ⟨.first, 2000⟩
  have hmarch := htexts ⟨some 2024, some 3, some 1⟩
  have hnoDate := htexts ⟨some 2024, some 2, some 30⟩
  rw [hwritten _ "20240003→01" (by decide +kernel)] at hmarch
  rw [hwritten _ "20240002→30" (by decide +kernel)] at hnoDate
  refine ⟨⟨f, a, ⟨2, .months⟩⟩, ⟨g, b, ⟨2, .months⟩⟩, by decide +kernel, by decide +kernel,
    by decide +kernel, ?_, ?_, ?_⟩
  · exact hmarch.symm.trans (by decide +kernel)
  · exact hnoDate.symm.trans (by decide +kernel)
  · exact (hdates _ rfl).symm.trans (by decide +kernel)

end Fieldwise
