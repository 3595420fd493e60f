import Fieldwise.Evaluation
import Fieldwise.Proofs.Calendar.Shift
import Fieldwise.Proofs.DateFormat.TypedDate

/-!
Date rules against values. A date rule passes exactly when the target of its comparison and the value
are both dates and lie in the right order. So the two directions never accept the same value and both
refuse it only when there is nothing to compare or the dates are equal; and a written anchor and a
written value change places when the direction is turned around.
-/

namespace Fieldwise

/-! ### The precision of periods -/

theorem Period.granularity_of_map {r : Except DateError Date} {g : Granularity} {p : Period}
    (h : r.map (fun d => Period.containing d g) = .ok p) : p.granularity = g := by
  cases r with
  | error e => cases h
  | ok d =>
    cases h
    rfl

namespace DateFormat
variable {f : DateFormat} {d : Date} {year : Int} {text : List Char} {p : Period}

theorem exists_readComponents_of_readPeriod (h : f.readPeriod text year = .ok p) :
    ∃ parts, f.readComponents text = .ok parts := by
  cases hr : f.readComponents text with
  | error e =>
    rw [readPeriod, hr] at h
    cases h
  | ok parts => exact ⟨parts, rfl⟩

theorem granularity_of_project (h : f.project d year = .ok p) : p.granularity = f.granularity := by
  rw [project_eq] at h
  exact Period.granularity_of_map h

theorem granularity_of_readPeriod (h : f.readPeriod text year = .ok p) :
    p.granularity = f.granularity := by
  obtain ⟨parts, hparts⟩ := exists_readComponents_of_readPeriod h
  rw [readPeriod_of_readComponents hparts] at h
  exact Period.granularity_of_map h

/-- Whatever the format, a value is seen through it as a date, or is read in it as a text, or is refused. -/
theorem periodOf_cases (value : FieldValue) :
    (∃ d, ∀ (f : DateFormat) year, f.periodOf value year = f.project d year) ∨
      (∃ text, ∀ (f : DateFormat) year, f.periodOf value year = f.readPeriod text year) ∨
      ∃ e, ∀ (f : DateFormat) year, f.periodOf value year = .error e := by
  cases value with
  | null => exact Or.inr (Or.inr ⟨_, fun _ _ => rfl⟩)
  | boolean b => exact Or.inr (Or.inr ⟨_, fun _ _ => rfl⟩)
  | integer n => exact Or.inr (Or.inl ⟨_, fun _ _ => rfl⟩)
  | float x => exact Or.inr (Or.inl ⟨_, fun _ _ => rfl⟩)
  | text s => exact Or.inr (Or.inl ⟨_, fun _ _ => rfl⟩)
  | date d => exact Or.inl ⟨_, fun _ _ => rfl⟩
  | dateTime t => exact Or.inl ⟨_, fun _ _ => rfl⟩

/-- Every value has the precision of the format in which it is seen or read. -/
theorem granularity_of_periodOf {value : FieldValue} (h : f.periodOf value year = .ok p) :
    p.granularity = f.granularity := by
  rcases periodOf_cases value with ⟨d, hd⟩ | ⟨text, htext⟩ | ⟨e, he⟩
  · exact granularity_of_project (hd f year ▸ h)
  · exact granularity_of_readPeriod (htext f year ▸ h)
  · cases (he f year).symm.trans h

end DateFormat

/-! ### Targets -/

namespace DateComparison
variable {c : DateComparison} {today : Date} {year : Int} {target : Period}

theorem target_eq_ok_iff : c.target today year = .ok target ↔
    ∃ base d, c.anchor.period c.format today year = .ok base ∧ c.offset.shift? base.start = some d ∧
      target = .containing d c.format.granularity := by
  cases hbase : c.anchor.period c.format today year with
  | error e => simp [DateComparison.target, hbase]
  | ok base => cases hs : c.offset.shift? base.start <;> simp [target_of_period hbase, hs, eq_comm]

theorem granularity_of_target (h : c.target today year = .ok target) :
    target.granularity = c.format.granularity := by
  obtain ⟨base, d, -, -, rfl⟩ := target_eq_ok_iff.mp h
  rfl

end DateComparison

/-! ### Passing and failing -/

namespace Direction

/-- Where a date lies, seen from a target, when it lies on the asked side. -/
def ordering : Direction → Ordering
  | before => .lt
  | after => .gt

/-- The date lies strictly on the asked side of the target. -/
def Separates (direction : Direction) (d target : Date) : Prop :=
  match direction with
  | before => d < target
  | after => target < d

theorem compare_eq_ordering_iff {direction : Direction} {d target : Date} :
    Ord.compare d target = direction.ordering ↔ direction.Separates d target := by
  cases direction with
  | before => exact compare_lt_iff_lt
  | after => exact compare_gt_iff_gt

end Direction

namespace DateComparison
variable {c : DateComparison} {direction : Direction} {value : FieldValue}
  {context : EvaluationContext}

theorem order_eq_ok_iff {o : Ordering} : c.order value context = .ok o ↔
    ∃ target p, c.target context.today context.referenceYear = .ok target ∧
      c.format.periodOf value context.referenceYear = .ok p ∧
      Ord.compare p.start target.start = o := by
  cases htarget : c.target context.today context.referenceYear with
  | error e => simp [order, htarget]
  | ok target =>
    cases hp : c.format.periodOf value context.referenceYear with
    | error e => simp [order, htarget, hp]
    | ok p =>
      have hg := (DateFormat.granularity_of_periodOf hp).trans (granularity_of_target htarget).symm
      simp [order, htarget, hp, Period.compare_of_granularity_eq hg]

theorem evaluate_eq_passed_iff : c.evaluate direction value context = .passed ↔
    c.order value context = .ok direction.ordering := by
  cases hvalue : value.isNull with
  | true =>
    cases value <;> simp [FieldValue.isNull] at hvalue
    cases ht : c.target context.today context.referenceYear <;>
      simp [evaluate, order, FieldValue.isNull, DateFormat.periodOf, ht]
  | false =>
    cases ho : c.order value context with
    | error e => simp [evaluate, hvalue, ho]
    | ok o => cases o <;> cases direction <;> simp [evaluate, hvalue, ho, Direction.ordering]

theorem evaluate_eq_failed_iff (hvalue : value.isNull = false) :
    c.evaluate direction value context = .failed (.date direction c.describe) ↔
      c.evaluate direction value context ≠ .passed := by
  cases ho : c.order value context with
  | error e => simp [evaluate, hvalue, ho]
  | ok o => cases o <;> cases direction <;> simp [evaluate, hvalue, ho]

end DateComparison

namespace RuleSpec
variable {c : DateComparison} {direction : Direction} {value : FieldValue}
  {context : EvaluationContext}

theorem evaluate_date (direction : Direction) (c : DateComparison) (value : FieldValue)
    (context : EvaluationContext) :
    (date direction c).evaluate value context = c.evaluate direction value context := by
  have hskips : (date direction c).kind.skipsNull = true := by cases direction <;> rfl
  rw [evaluate, hskips, Bool.and_true]
  cases hnull : value.isNull with
  | true => simp [DateComparison.evaluate, hnull]
  | false => rfl

/-- A date rule passes when target and value are dates and the value lies on the asked side. -/
theorem evaluate_date_eq_passed_iff : (date direction c).evaluate value context = .passed ↔
    ∃ target p, c.target context.today context.referenceYear = .ok target ∧
      c.format.periodOf value context.referenceYear = .ok p ∧
      direction.Separates p.start target.start := by
  simp only [evaluate_date, DateComparison.evaluate_eq_passed_iff, DateComparison.order_eq_ok_iff,
    Direction.compare_eq_ordering_iff]

/-- A date rule that does not pass a value fails it, with the target in words. -/
theorem evaluate_date_eq_failed_iff (hvalue : value.isNull = false) :
    (date direction c).evaluate value context = .failed (.date direction c.describe) ↔
      (date direction c).evaluate value context ≠ .passed := by
  rw [evaluate_date]
  exact DateComparison.evaluate_eq_failed_iff hvalue

theorem evaluate_date_of_isNull (hvalue : value.isNull = true) :
    (date direction c).evaluate value context = .skipped := by
  rw [evaluate_date]
  unfold DateComparison.evaluate
  exact if_pos hvalue

/-- A date rule that passes both or neither of two values says the same of both. -/
theorem evaluate_date_congr {value' : FieldValue} {context' : EvaluationContext}
    (hnull : value.isNull = value'.isNull)
    (h : (date direction c).evaluate value context = .passed ↔
      (date direction c).evaluate value' context' = .passed) :
    (date direction c).evaluate value context = (date direction c).evaluate value' context' := by
  cases hvalue : value.isNull with
  | true => rw [evaluate_date_of_isNull hvalue, evaluate_date_of_isNull (hnull ▸ hvalue)]
  | false =>
    by_cases hpassed : (date direction c).evaluate value context = .passed
    · rw [hpassed, h.mp hpassed]
    · rw [(evaluate_date_eq_failed_iff hvalue).mpr hpassed,
        (evaluate_date_eq_failed_iff (hnull ▸ hvalue)).mpr fun hp => hpassed (h.mpr hp)]

/-- The two directions never accept the same value. -/
theorem not_passed_both : ¬ ((date .before c).evaluate value context = .passed ∧
    (date .after c).evaluate value context = .passed) := by
  rintro ⟨hbefore, hafter⟩
  obtain ⟨target, p, htarget, hp, hlt⟩ := evaluate_date_eq_passed_iff.mp hbefore
  obtain ⟨target', p', htarget', hp', hgt⟩ := evaluate_date_eq_passed_iff.mp hafter
  cases htarget.symm.trans htarget'
  cases hp.symm.trans hp'
  exact lt_asymm hlt hgt

/-- Neither direction accepts a value only when there is nothing to compare or no difference. -/
theorem not_passed_either_iff :
    (date .before c).evaluate value context ≠ .passed ∧
        (date .after c).evaluate value context ≠ .passed ↔
      (∃ e, c.target context.today context.referenceYear = .error e) ∨
      (∃ e, c.format.periodOf value context.referenceYear = .error e) ∨
      ∃ p, c.target context.today context.referenceYear = .ok p ∧
        c.format.periodOf value context.referenceYear = .ok p := by
  rw [ne_eq, ne_eq, evaluate_date_eq_passed_iff, evaluate_date_eq_passed_iff]
  constructor
  · rintro ⟨hbefore, hafter⟩
    cases htarget : c.target context.today context.referenceYear with
    | error e => exact Or.inl ⟨e, rfl⟩
    | ok target =>
      cases hp : c.format.periodOf value context.referenceYear with
      | error e => exact Or.inr (Or.inl ⟨e, rfl⟩)
      | ok p =>
        have hg := (DateFormat.granularity_of_periodOf hp).trans
          (DateComparison.granularity_of_target htarget).symm
        have hle : p.start ≤ target.start :=
          not_lt.mp fun hlt => hafter ⟨target, p, htarget, hp, hlt⟩
        have hge : target.start ≤ p.start :=
          not_lt.mp fun hlt => hbefore ⟨target, p, htarget, hp, hlt⟩
        exact Or.inr (Or.inr ⟨p, by rw [Period.ext_start hg (le_antisymm hle hge)], rfl⟩)
  · intro hnone
    -- Whatever the direction, a value that passes has a target of its own, different from it.
    suffices h : ∀ direction : Direction, ¬ ∃ target p,
        c.target context.today context.referenceYear = .ok target ∧
        c.format.periodOf value context.referenceYear = .ok p ∧
        direction.Separates p.start target.start from ⟨h .before, h .after⟩
    rintro direction ⟨target, p, htarget, hp, hsep⟩
    rcases hnone with ⟨e, he⟩ | ⟨e, he⟩ | ⟨q, hq, hq'⟩
    · cases htarget.symm.trans he
    · cases hp.symm.trans he
    · cases htarget.symm.trans hq
      cases hp.symm.trans hq'
      cases direction <;> exact lt_irrefl _ hsep

end RuleSpec

/-! ### Written anchors -/

/-- A text that names a period is an anchor, and the target without a shift is the period. -/
theorem DateComparison.exists_target_of_readPeriod {f : DateFormat} {text : List Char} {year : Int}
    {p : Period} (h : f.readPeriod text year = .ok p) :
    ∃ a, Anchor.read f text = .ok a ∧ a.isNow = false ∧
      ∀ today unit, (DateComparison.mk f a ⟨0, unit⟩).target today year = .ok p := by
  obtain ⟨parts, hparts⟩ := DateFormat.exists_readComponents_of_readPeriod h
  refine ⟨_, Anchor.read_of_readComponents hparts, rfl, fun today unit => ?_⟩
  have hperiod : (Anchor.literal text parts).period f today year = .ok p := by
    rw [← h, DateFormat.readPeriod_of_readComponents hparts]
    rfl
  refine target_eq_ok_iff.mpr ⟨p, p.start, hperiod, Offset.shift?_of_amount_eq_zero rfl _, ?_⟩
  have hg := DateFormat.granularity_of_readPeriod h
  refine Period.ext_start hg ?_
  show p.start = f.granularity.truncate p.start
  rw [← hg, p.truncate_start]

/-- The two directions of a comparison never accept the same value, and both refuse it exactly when
    the target or the value is no date or both are the same. And two texts that are dates can change
    places: the first, as a value, lies before the second, as a target, exactly when the second, as a
    value, lies after the first. -/
theorem date_rules_exclude_and_mirror :
    (∀ (c : DateComparison) (value : FieldValue) (context : EvaluationContext),
      value.isNull = false →
      ¬ ((RuleSpec.date .before c).evaluate value context = .passed ∧
        (RuleSpec.date .after c).evaluate value context = .passed) ∧
      ((RuleSpec.date .before c).evaluate value context = .failed (.date .before c.describe) ∧
          (RuleSpec.date .after c).evaluate value context = .failed (.date .after c.describe) ↔
        (∃ e, c.target context.today context.referenceYear = .error e) ∨
        (∃ e, c.format.periodOf value context.referenceYear = .error e) ∨
        ∃ p, c.target context.today context.referenceYear = .ok p ∧
          c.format.periodOf value context.referenceYear = .ok p)) ∧
    ∀ (f : DateFormat) (year : Int) (s t : String) (p q : Period),
      f.readPeriod s.toList year = .ok p → f.readPeriod t.toList year = .ok q →
      ∃ a b, Anchor.read f s.toList = .ok a ∧ a.isNow = false ∧
        Anchor.read f t.toList = .ok b ∧ b.isNow = false ∧
        ∀ today today' unit unit',
          (RuleSpec.date .before ⟨f, b, ⟨0, unit⟩⟩).evaluate (.text s) ⟨today, year⟩ = .passed ↔
            (RuleSpec.date .after ⟨f, a, ⟨0, unit'⟩⟩).evaluate (.text t) ⟨today', year⟩ = .passed := by
  constructor
  · intro c value context hvalue
    refine ⟨RuleSpec.not_passed_both, ?_⟩
    rw [RuleSpec.evaluate_date_eq_failed_iff hvalue, RuleSpec.evaluate_date_eq_failed_iff hvalue]
    exact RuleSpec.not_passed_either_iff
  · intro f year s t p q hp hq
    obtain ⟨a, ha, hnow, htarget⟩ := DateComparison.exists_target_of_readPeriod hp
    obtain ⟨b, hb, hnow', htarget'⟩ := DateComparison.exists_target_of_readPeriod hq
    refine ⟨a, b, ha, hnow, hb, hnow', fun today today' unit unit' => ?_⟩
    -- On both sides the first period is asked to begin before the second one.
    have hs : f.periodOf (.text s) year = .ok p := hp
    have ht : f.periodOf (.text t) year = .ok q := hq
    simp [RuleSpec.evaluate_date_eq_passed_iff, htarget, htarget', hs, ht, Direction.Separates]

/-- In a format of month and year, a day of February lies neither before nor after its month, and
    January lies before February just as February lies after January. -/
theorem months_exclude_and_mirror :
    ∃ f c a b, f.pattern = "MM/YYYY".toList ∧
      (RuleSpec.date .before c).evaluate (.date ⟨2024, 2, 29, by decide⟩) ⟨.first, 2000⟩ =
        .failed (.date .before "02/2024") ∧
      (RuleSpec.date .after c).evaluate (.date ⟨2024, 2, 29, by decide⟩) ⟨.first, 2000⟩ =
        .failed (.date .after "02/2024") ∧
      Anchor.read f "01/2024".toList = .ok a ∧ Anchor.read f "02/2024".toList = .ok b ∧
      (RuleSpec.date .before ⟨f, b, ⟨0, .days⟩⟩).evaluate (.text "01/2024") ⟨.last, 2000⟩ = .passed ∧
      (RuleSpec.date .after ⟨f, a, ⟨0, .years⟩⟩).evaluate (.text "02/2024") ⟨.first, 2000⟩ =
        .passed := by
  let f : DateFormat := ⟨[.component .month, .literal ['/'], .component .year],
    by decide, by decide, by decide⟩
  let c : DateComparison := ⟨f, .literal "02/2024".toList ⟨some 2024, some 2, none⟩, ⟨0, .months⟩⟩
  let january : Period := .containing ⟨2024, 1, 1, by decide⟩ .month
  let february : Period := .containing ⟨2024, 2, 1, by decide⟩ .month
  have hfails := ((date_rules_exclude_and_mirror.1 c (.date ⟨2024, 2, 29, by decide⟩)
    ⟨.first, 2000⟩ rfl).2).mpr (Or.inr (Or.inr ⟨february, by decide +kernel, by decide +kernel⟩))
  obtain ⟨a, b, ha, -, hb, -, hmirror⟩ := date_rules_exclude_and_mirror.2 f 2000 "01/2024" "02/2024"
    january february (by decide +kernel) (by decide +kernel)
  have hanchor : Anchor.read f "02/2024".toList = .ok c.anchor := by decide +kernel
  cases hb.symm.trans hanchor
  have hbefore : (RuleSpec.date .before ⟨f, c.anchor, ⟨0, .days⟩⟩).evaluate (.text "01/2024")
      ⟨.last, 2000⟩ = .passed := by decide +kernel
  exact ⟨f, c, a, c.anchor, by decide, hfails.1, hfails.2, ha, hb, hbefore,
    (hmirror _ _ _ _).mp hbefore⟩

end Fieldwise
