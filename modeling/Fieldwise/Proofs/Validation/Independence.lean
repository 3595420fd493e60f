import Fieldwise.Proofs.Evaluation.Independence
import Fieldwise.Proofs.Validation.Clock

/-!
What a validation does not depend on. Two validators that tell failures in the same words go through
the same steps as long as every rule sees alike what they hold of the day and the year. So a table
without the current date as an anchor gives the same report, or the same error, and the same log under
every clock, and a table whose date rules all write the year does so in every reference year.
-/

namespace Fieldwise

theorem foldlM_congr {m : Type → Type} [Monad m] {α β : Type} {f g : β → α → m β} {xs : List α}
    (h : ∀ b, ∀ x ∈ xs, f b x = g b x) (b : β) : xs.foldlM f b = xs.foldlM g b := by
  induction xs generalizing b with
  | nil => rfl
  | cons x rest ih =>
    rw [List.foldlM_cons, List.foldlM_cons, h b x List.mem_cons_self]
    exact congrArg _ (funext fun b => ih (fun b y hy => h b y (List.mem_cons_of_mem _ hy)) b)

namespace Validator
variable {v w : Validator}

/-! ### One step -/

theorem evaluationEvents_congr {spec : RuleSpec} (h : spec.SeesAlike v.context w.context)
    (value : FieldValue) : v.evaluationEvents spec value = w.evaluationEvents spec value := by
  cases spec with
  | required => rfl
  | integer => rfl
  | date direction c => simp only [evaluationEvents, DateComparison.unresolved?_congr (h value)]

/-- A rule that sees both contexts alike adds the same to a report and to the log. -/
theorem applyRule_congr (hlabels : v.labels = w.labels) (hcatalog : v.catalog = w.catalog)
    {spec : RuleSpec} (h : spec.SeesAlike v.context w.context) (field : String) (value : FieldValue)
    (report : Report) : v.applyRule field value report spec = w.applyRule field value report spec := by
  simp only [applyRule, evaluationEvents_congr h, h.evaluate_eq, failureMessage, hlabels, hcatalog]

/-! ### The whole run -/

theorem applyNumbered_congr (hlabels : v.labels = w.labels) (hcatalog : v.catalog = w.catalog)
    {clock clock' : Clock} {r : (String × RuleSpec) × Nat}
    (h : r.1.2.SeesAlike ⟨clock r.2, v.referenceYear⟩ ⟨clock' r.2, w.referenceYear⟩)
    (record : Record) (report : Report) :
    v.applyNumbered clock record report r = w.applyNumbered clock' record report r := by
  have hlabels' : (v.onDay (clock r.2)).labels = (w.onDay (clock' r.2)).labels := hlabels
  have hcatalog' : (v.onDay (clock r.2)).catalog = (w.onDay (clock' r.2)).catalog := hcatalog
  unfold applyNumbered
  exact applyRule_congr hlabels' hcatalog' h _ _ _

theorem validateCompiledUnder_congr (hlabels : v.labels = w.labels) (hcatalog : v.catalog = w.catalog)
    {clock clock' : Clock} {rules : RuleSet}
    (hcheck : rules.checkReferenceYear v.referenceYear = rules.checkReferenceYear w.referenceYear)
    (h : ∀ r ∈ rules.members, ∀ n,
      r.2.SeesAlike ⟨clock n, v.referenceYear⟩ ⟨clock' n, w.referenceYear⟩) (record : Record) :
    v.validateCompiledUnder clock rules record = w.validateCompiledUnder clock' rules record := by
  have hrun : rules.members.zipIdx.foldlM (v.applyNumbered clock record) .passed =
      rules.members.zipIdx.foldlM (w.applyNumbered clock' record) .passed :=
    foldlM_congr (fun report r hr => applyNumbered_congr hlabels hcatalog
      (h r.1 (List.fst_mem_of_mem_zipIdx hr) r.2) record report) .passed
  simp only [validateCompiledUnder, hcheck, hrun]

theorem validateUnder_congr (hlabels : v.labels = w.labels) (hcatalog : v.catalog = w.catalog)
    {clock clock' : Clock} {table : FieldRules}
    (hcheck : ∀ t ∈ table.members, ∀ spec, RuleSpec.parse t.2 = .ok spec →
      spec.checkAnchor v.referenceYear = spec.checkAnchor w.referenceYear)
    (h : ∀ t ∈ table.members, ∀ spec, RuleSpec.parse t.2 = .ok spec → ∀ n,
      spec.SeesAlike ⟨clock n, v.referenceYear⟩ ⟨clock' n, w.referenceYear⟩) (record : Record) :
    v.validateUnder clock table record = w.validateUnder clock' table record := by
  unfold validateUnder
  cases hc : RuleSet.compile table with
  | error e => rfl
  | ok rules =>
    -- What is known of the rules is known by their texts, from which the run has read them.
    refine validateCompiledUnder_congr hlabels hcatalog ?_ (fun r hr => ?_) record
    · refine RuleSet.checkReferenceYear_congr fun r hr => ?_
      obtain ⟨t, ht, hparse⟩ := RuleSet.exists_text_of_mem_members hc r hr
      exact hcheck t ht r.2 hparse
    · obtain ⟨t, ht, hparse⟩ := RuleSet.exists_text_of_mem_members hc r hr
      exact h t ht r.2 hparse

/-- The validator with another reference year. -/
def inYear (v : Validator) (year : Int) : Validator := { v with referenceYear := year }

theorem validateUnder_eq_of_ne_now {table : FieldRules}
    (hnow : ∀ t ∈ table.members, ∀ direction c, RuleSpec.parse t.2 = .ok (.date direction c) →
      c.anchor ≠ .now) (v : Validator) (record : Record) (clock clock' : Clock) :
    v.validateUnder clock table record = v.validateUnder clock' table record := by
  refine validateUnder_congr rfl rfl (fun _ _ _ _ => rfl) (fun t ht spec hparse n => ?_) record
  refine RuleSpec.seesAlike_of_ne_now (fun direction c hspec => ?_) _ _ _
  exact hnow t ht direction c (hspec ▸ hparse)

theorem validateUnder_eq_of_has_year {table : FieldRules}
    (hyear : ∀ t ∈ table.members, ∀ direction c, RuleSpec.parse t.2 = .ok (.date direction c) →
      c.format.has .year = true) (v : Validator) (record : Record) (clock : Clock)
    (year year' : Int) : (v.inYear year).validateUnder clock table record =
      (v.inYear year').validateUnder clock table record := by
  have hspec : ∀ t ∈ table.members, ∀ spec, RuleSpec.parse t.2 = .ok spec →
      ∀ direction c, spec = .date direction c → c.format.has .year = true :=
    fun t ht spec hparse direction c heq => hyear t ht direction c (heq ▸ hparse)
  have hlabels : (v.inYear year).labels = (v.inYear year').labels := rfl
  have hcatalog : (v.inYear year).catalog = (v.inYear year').catalog := rfl
  refine validateUnder_congr hlabels hcatalog (fun t ht spec hparse => ?_) (fun t ht spec hparse n => ?_)
    record
  · exact RuleSpec.checkAnchor_eq_of_has_year hparse (hspec t ht spec hparse) year year'
  · exact RuleSpec.seesAlike_of_has_year hparse (hspec t ht spec hparse) (clock n) year year'

/-- Where no date rule of a table has the current date as its anchor, all clocks lead to the same
    report or error and to the same log, whether they stand still or not; and where every date rule of
    a table writes the year, all reference years do, even those of which no day is represented. -/
theorem validation_ignores_clock_and_reference_year (v : Validator) (table : FieldRules)
    (record : Record) :
    ((∀ t ∈ table.members, ∀ direction c, RuleSpec.parse t.2 = .ok (.date direction c) →
        c.anchor ≠ .now) →
      (∀ clock clock', v.validateUnder clock table record = v.validateUnder clock' table record) ∧
      ∀ today today',
        (v.onDay today).validate table record = (v.onDay today').validate table record) ∧
    ((∀ t ∈ table.members, ∀ direction c, RuleSpec.parse t.2 = .ok (.date direction c) →
        c.format.has .year = true) →
      (∀ clock year year', (v.inYear year).validateUnder clock table record =
        (v.inYear year').validateUnder clock table record) ∧
      ∀ year year',
        (v.inYear year).validate table record = (v.inYear year').validate table record) := by
  constructor
  · intro hnow
    refine ⟨validateUnder_eq_of_ne_now hnow v record, fun today today' => ?_⟩
    rw [← validateUnder_const (v.onDay today), ← validateUnder_const (v.onDay today'),
      validateUnder_onDay, validateUnder_onDay]
    exact validateUnder_eq_of_ne_now hnow v record _ _
  · intro hyear
    refine ⟨validateUnder_eq_of_has_year hyear v record, fun year year' => ?_⟩
    rw [← validateUnder_const (v.inYear year), ← validateUnder_const (v.inYear year')]
    exact validateUnder_eq_of_has_year hyear v record _ year year'

/-- With a year added to the last of February of a leap year as the target, the report is the same on
    another day, under a clock that goes on between the rules, and in a reference year out of range. -/
theorem leap_day_anchor_ignores_clock_and_reference_year :
    let v := Validator.default ⟨2026, 10, 15, by decide⟩
    let table : FieldRules := .ofList [("due", ["dateAfter:DD.MM.YYYY:29.02.2024:1:years", "required"])]
    let record : Record := .ofList [("due", .text "28.02.2025")]
    (v.onDay ⟨1999, 12, 31, by decide⟩).validate table record = v.validate table record ∧
      v.validateUnder (fun n => if n = 0 then ⟨1999, 12, 31, by decide⟩ else ⟨2028, 2, 29, by decide⟩)
          table record = v.validateUnder (fun _ => v.today) table record ∧
      (v.inYear 300000).validate table record = (v.inYear 2001).validate table record := by
  intro v table record
  let f : DateFormat := ⟨[.component .day, .literal ['.'], .component .month, .literal ['.'],
    .component .year], by decide, by decide, by decide⟩
  let a : Anchor := .literal "29.02.2024".toList ⟨some 2024, some 2, some 29⟩
  have hmembers : table.members =
      [("due", "dateAfter:DD.MM.YYYY:29.02.2024:1:years"), ("due", "required")] := by decide +kernel
  have hafter : RuleSpec.parse "dateAfter:DD.MM.YYYY:29.02.2024:1:years" =
      .ok (.date .after ⟨f, a, ⟨1, .years⟩⟩) := by decide +kernel
  have hrequired : RuleSpec.parse "required" = .ok .required := by decide +kernel
  have hrules : ∀ t ∈ table.members, ∀ direction c, RuleSpec.parse t.2 = .ok (.date direction c) →
      c = ⟨f, a, ⟨1, .years⟩⟩ := by
    rw [hmembers]
    simp [hafter, hrequired]
  obtain ⟨hclock, hyear⟩ := validation_ignores_clock_and_reference_year v table record
  refine ⟨(hclock fun t ht direction c h => ?_).2 _ _, (hclock fun t ht direction c h => ?_).1 _ _,
    (hyear fun t ht direction c h => ?_).2 _ _⟩ <;>
  · rw [hrules t ht direction c h]
    decide

end Validator

end Fieldwise
