import Fieldwise.Config
import Fieldwise.Proofs.Decimal.Numeral
import Fieldwise.Proofs.Text.Case

/-!
Profiles of the configuration. A profile is laid over the environment: a setting is read under it as it would
be read without a profile if the variables with the profile in front stood in place of those without,
wherever they are set and not empty. Nothing else of the environment counts, and what stands in front is not
looked behind when it is not understood.
-/

namespace Fieldwise

namespace Environment
variable {env env' : Environment} {profile key : String} {keys : List String}

/-! ### Variables -/

/-- The text of a variable, empty if it is not set. -/
def textOf (env : Environment) (key : String) : String := (env.get? key).getD ""

theorem nonempty?_eq (env : Environment) (key : String) :
    env.nonempty? key = if env.textOf key = "" then none else some (env.textOf key) := by
  unfold nonempty? textOf
  cases hget : env.get? key with
  | none => rfl
  | some value => by_cases hvalue : value = "" <;> simp [hvalue]

theorem nonempty?_eq_some_iff {value : String} :
    env.nonempty? key = some value ↔ env.get? key = some value ∧ value ≠ "" := by
  rw [nonempty?, Option.filter_eq_some_iff, decide_eq_true_eq]

theorem nonempty?_of_textOf_eq_empty (h : env.textOf key = "") : env.nonempty? key = none := by
  rw [nonempty?_eq, if_pos h]

theorem profiled?_no_profile (env : Environment) (key : String) :
    env.profiled? "" key = env.nonempty? key := if_pos rfl

theorem profiled?_of_ne_empty (h : profile ≠ "") (env : Environment) (key : String) :
    env.profiled? profile key =
      (env.nonempty? (profile ++ "_" ++ key)).or (env.nonempty? key) := if_neg h

theorem profiled?_congr (h : ∀ key, env'.textOf key = env.textOf key) (profile key : String) :
    env'.profiled? profile key = env.profiled? profile key := by
  simp only [profiled?, nonempty?_eq, h]

theorem profiled?_of_empty (h : env.textOf (profile ++ "_" ++ key) = "") :
    env.profiled? profile key = env.profiled? "" key := by
  by_cases hprofile : profile = ""
  · rw [hprofile]
  · rw [profiled?_no_profile, profiled?_of_ne_empty hprofile, nonempty?_of_textOf_eq_empty h,
      Option.none_or]

theorem profiled?_of_nonempty (hprofile : profile ≠ "")
    (h : env.textOf (profile ++ "_" ++ key) ≠ "") :
    env.profiled? profile key = some (env.textOf (profile ++ "_" ++ key)) := by
  rw [profiled?_of_ne_empty hprofile, nonempty?_eq env (profile ++ "_" ++ key), if_neg h,
    Option.some_or]

/-! ### Overlays -/

/-- Gives a variable the value that it has with the profile in front, if that is set and not empty. -/
def overlayKey (env : Environment) (profile : String) (overlaid : Environment) (key : String) :
    Environment :=
  match env.nonempty? (profile ++ "_" ++ key) with
  | some value => overlaid.insert key value
  | none => overlaid

/-- The environment with the profile laid over these variables. -/
def overlay (env : Environment) (profile : String) (keys : List String) : Environment :=
  keys.foldl (env.overlayKey profile) env

theorem get?_overlayKey (env : Environment) (profile : String) (overlaid : Environment)
    (key k : String) : (env.overlayKey profile overlaid key).get? k =
      if k = key then (env.nonempty? (profile ++ "_" ++ k)).or (overlaid.get? k)
      else overlaid.get? k := by
  unfold overlayKey
  split
  · next value hvalue =>
    rw [Table.get?_insert]
    split
    · next heq => rw [heq, hvalue, Option.some_or]
    · rfl
  · next hnone =>
    split
    · next heq => rw [heq, hnone, Option.none_or]
    · rfl

theorem get?_foldl_overlayKey (env : Environment) (profile : String) (keys : List String)
    (overlaid : Environment) (k : String) :
    (keys.foldl (env.overlayKey profile) overlaid).get? k =
      if k ∈ keys then (env.nonempty? (profile ++ "_" ++ k)).or (overlaid.get? k)
      else overlaid.get? k := by
  induction keys generalizing overlaid with
  | nil => rfl
  | cons key keys ih =>
    rw [List.foldl_cons, ih, get?_overlayKey]
    by_cases hk : k = key
    · -- A variable that is named twice is given the same value twice.
      cases env.nonempty? (profile ++ "_" ++ k) <;> simp [hk]
    · simp [hk]

theorem get?_overlay (env : Environment) (profile : String) (keys : List String) (k : String) :
    (env.overlay profile keys).get? k =
      if k ∈ keys ∧ env.textOf (profile ++ "_" ++ k) ≠ "" then some (env.textOf (profile ++ "_" ++ k))
      else env.get? k := by
  rw [overlay, get?_foldl_overlayKey, nonempty?_eq]
  by_cases hk : k ∈ keys
  · by_cases htext : env.textOf (profile ++ "_" ++ k) = "" <;> simp [hk, htext]
  · simp [hk]

/-- Under a profile a variable is read as it is read from the overlay without a profile. -/
theorem profiled?_overlay (hprofile : profile ≠ "") (hkey : key ∈ keys) :
    (env.overlay profile keys).profiled? "" key = env.profiled? profile key := by
  by_cases htext : env.textOf (profile ++ "_" ++ key) = ""
  · have hget : (env.overlay profile keys).get? key = env.get? key := by
      rw [get?_overlay, if_neg fun h => h.2 htext]
    rw [profiled?_of_empty htext, profiled?_no_profile, profiled?_no_profile, nonempty?, nonempty?, hget]
  · have hget : (env.overlay profile keys).get? key = some (env.textOf (profile ++ "_" ++ key)) := by
      rw [get?_overlay, if_pos ⟨hkey, htext⟩]
    rw [profiled?_of_nonempty hprofile htext, profiled?_no_profile, nonempty?_eq_some_iff]
    exact ⟨hget, htext⟩

end Environment

/-! ### Settings -/

theorem ClockKind.ofName?_eq_some_iff {name : String} {clock : ClockKind} :
    ofName? name = some clock ↔ name = clock.name := by
  constructor
  · intro h
    unfold ofName? at h
    split at h
    · next hname =>
      cases h
      exact hname
    · next hname =>
      obtain ⟨hname, hclock⟩ := Option.ite_none_right_eq_some.mp h
      cases hclock
      exact hname
  · rintro rfl
    cases clock <;> rfl

/-- The word that a setting for the clock comes down to. -/
def clockWord (text : String) : String := String.ofList (lowerText (trimBlank text.toList))

/-- The text of a setting stands for the year: an integer of 32 bits, with or without blanks around it. -/
def IsYearText (text : String) (year : Int) : Prop :=
  Numeral.IsInteger (trimBlank text.toList) year ∧ Numeral.FitsInt32 year

namespace Config
open Environment
variable {env env' : Environment} {p text : String}

theorem value_readClock (text : String) :
    (readClock (some text)).value = (ClockKind.ofName? (clockWord text)).getD .localTime := by
  rw [readClock, ClockKind.read, ← clockWord]
  cases ClockKind.ofName? (clockWord text) <;> rfl

theorem value_readClock_of_eq_name {clock : ClockKind} (h : clockWord text = clock.name) :
    (readClock (some text)).value = clock := by
  rw [value_readClock, ClockKind.ofName?_eq_some_iff.mpr h, Option.getD_some]

theorem value_readClock_of_ne_name (h : ∀ clock : ClockKind, clockWord text ≠ clock.name) :
    (readClock (some text)).value = .localTime := by
  have hnone : ClockKind.ofName? (clockWord text) = none := by
    rw [Option.eq_none_iff_forall_ne_some]
    exact fun clock hclock => h clock (ClockKind.ofName?_eq_some_iff.mp hclock)
  rw [value_readClock, hnone, Option.getD_none]

theorem value_readReferenceYear (text : String) : (readReferenceYear (some text)).value =
    (Numeral.int32? (trimBlank text.toList)).getD defaultReferenceYear := by
  rw [readReferenceYear]
  cases Numeral.int32? (trimBlank text.toList) <;> rfl

theorem value_readReferenceYear_of_isYearText {year : Int} (h : IsYearText text year) :
    (readReferenceYear (some text)).value = year := by
  rw [value_readReferenceYear, Numeral.int32?_eq_some_iff.mpr h, Option.getD_some]

theorem value_readReferenceYear_of_not_isYearText (h : ∀ year, ¬ IsYearText text year) :
    (readReferenceYear (some text)).value = defaultReferenceYear := by
  have hnone : Numeral.int32? (trimBlank text.toList) = none := by
    rw [Option.eq_none_iff_forall_ne_some]
    exact fun year hyear => h year (Numeral.int32?_eq_some_iff.mp hyear)
  rw [value_readReferenceYear, hnone, Option.getD_none]

/-! ### Profiles -/

theorem forProfile_congr (h : ∀ key, env'.textOf key = env.textOf key) (p : String) :
    forProfile env' p = forProfile env p := by
  simp only [forProfile, profiled?_congr h]

theorem value_forProfile (env : Environment) (p : String) : (forProfile env p).value =
    ⟨upperString p, (readReferenceYear (env.profiled? (upperString p) referenceYearKey)).value,
      (readClock (env.profiled? (upperString p) clockKey)).value⟩ := rfl

theorem referenceYear_forProfile (env : Environment) (p : String) :
    (forProfile env p).value.referenceYear =
      (readReferenceYear (env.profiled? (upperString p) referenceYearKey)).value := rfl

theorem clock_forProfile (env : Environment) (p : String) : (forProfile env p).value.clock =
    (readClock (env.profiled? (upperString p) clockKey)).value := rfl

theorem events_forProfile (env : Environment) (p : String) : (forProfile env p).events =
    (readClock (env.profiled? (upperString p) clockKey)).events ++
      (readReferenceYear (env.profiled? (upperString p) referenceYearKey)).events := by
  simp only [forProfile, Logged.events_bind, Logged.events_pure, List.append_nil]

theorem ofEnvironment_eq (env : Environment) :
    ofEnvironment env = forProfile env (env.textOf profileKey) := by
  simp only [ofEnvironment, forProfile, upperString_upperString, textOf]

/-- A profile is laid over the environment: the settings and the log are those that the overlay gives without
    a profile. So an empty variable is like one that is not set, and each setting by itself gives way to the
    variable without a profile, but only where that with the profile is empty: a text that is not understood
    there leads to the default. The profile is the same whether it is given or named by its variable. -/
theorem profile_is_overlay (env : Environment) {p : String} (hp : p ≠ "") :
    let P := upperString p
    let overlaid := env.overlay P [referenceYearKey, clockKey]
    (∀ key, overlaid.get? key =
      if key ∈ [referenceYearKey, clockKey] ∧ env.textOf (P ++ "_" ++ key) ≠ "" then
        some (env.textOf (P ++ "_" ++ key))
      else env.get? key) ∧
    (forProfile env p).value = { (forProfile overlaid "").value with profile := P } ∧
    (forProfile env p).events = (forProfile overlaid "").events ∧
    (∀ env' : Environment, (∀ key, env'.textOf key = env.textOf key) →
      ∀ q, forProfile env' q = forProfile env q) ∧
    (env.textOf (P ++ "_" ++ referenceYearKey) = "" →
      (forProfile env p).value.referenceYear = (forProfile env "").value.referenceYear) ∧
    (env.textOf (P ++ "_" ++ clockKey) = "" →
      (forProfile env p).value.clock = (forProfile env "").value.clock) ∧
    (∀ text, env.textOf (P ++ "_" ++ referenceYearKey) = text → text ≠ "" →
      (∀ year, IsYearText text year → (forProfile env p).value.referenceYear = year) ∧
      ((∀ year, ¬ IsYearText text year) → (forProfile env p).value.referenceYear = 2000)) ∧
    (∀ text, env.textOf (P ++ "_" ++ clockKey) = text → text ≠ "" →
      (∀ clock : ClockKind, clockWord text = clock.name → (forProfile env p).value.clock = clock) ∧
      ((∀ clock : ClockKind, clockWord text ≠ clock.name) →
        (forProfile env p).value.clock = .localTime)) ∧
    ofEnvironment env = forProfile env (env.textOf profileKey) := by
  intro P overlaid
  have hP : P ≠ "" := upperString_ne_empty hp
  have hempty : upperString "" = "" := by decide
  have hyear : overlaid.profiled? "" referenceYearKey = env.profiled? P referenceYearKey :=
    profiled?_overlay hP (by decide)
  have hclock : overlaid.profiled? "" clockKey = env.profiled? P clockKey :=
    profiled?_overlay hP (by decide)
  refine ⟨get?_overlay env P _, ?_, ?_, fun env' h => forProfile_congr h, fun htext => ?_,
    fun htext => ?_, ?_, ?_, ofEnvironment_eq env⟩
  · rw [value_forProfile, value_forProfile, hempty, hyear, hclock]
  · rw [events_forProfile, events_forProfile, hempty, hyear, hclock]
  · rw [referenceYear_forProfile, referenceYear_forProfile, hempty, ← profiled?_of_empty htext]
  · rw [clock_forProfile, clock_forProfile, hempty, ← profiled?_of_empty htext]
  · rintro text rfl hne
    rw [referenceYear_forProfile, profiled?_of_nonempty hP hne]
    exact ⟨fun _ => value_readReferenceYear_of_isYearText, value_readReferenceYear_of_not_isYearText⟩
  · rintro text rfl hne
    rw [clock_forProfile, profiled?_of_nonempty hP hne]
    exact ⟨fun _ => value_readClock_of_eq_name, value_readClock_of_ne_name⟩

/-- Under the profile an empty clock gives way, to a name in any case and with blanks around it, and a year
    that is no number does not give way. -/
theorem empty_clock_gives_way_and_malformed_year_does_not :
    let env : Environment := .ofList [("TEST_FIELDCHECK_CLOCK", ""), ("FIELDCHECK_CLOCK", " Utc "),
      ("TEST_FIELDCHECK_REFERENCE_YEAR", "soon"), ("FIELDCHECK_REFERENCE_YEAR", "1996"),
      ("FIELDCHECK_PROFILE", "test")]
    (forProfile env "").value = ⟨"", 1996, .utc⟩ ∧
      (forProfile env "test").value.profile = "TEST" ∧
      (forProfile env "test").value.clock = .utc ∧
      (forProfile env "test").value.referenceYear = 2000 ∧
      ofEnvironment env = forProfile env "test" := by
  intro env
  have hplain : (forProfile env "").value = ⟨"", 1996, .utc⟩ := by decide +kernel
  obtain ⟨-, hvalue, -, -, -, hclock, hyear, -, hof⟩ :=
    profile_is_overlay env (show "test" ≠ "" by decide)
  have hclock := hclock (by decide +kernel)
  have hsoon : ∀ year, ¬ IsYearText "soon" year := fun year h => by
    have hnone : Numeral.integer? (trimBlank "soon".toList) = none := by decide
    cases hnone.symm.trans (Numeral.integer?_eq_some_iff.mpr h.1)
  refine ⟨hplain, ?_, ?_, (hyear "soon" (by decide +kernel) (by decide)).2 hsoon, hof⟩
  · rw [hvalue]
    decide +kernel
  · rw [hclock, hplain]

end Config

end Fieldwise
