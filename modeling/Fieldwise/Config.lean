import Fieldwise.Event
import Fieldwise.Table
import Fieldwise.Text.Blank
import Fieldwise.Text.Case

/-!
Configuration. The settings are read from environment variables. Under a profile, each variable is
first looked for with the profile in front of its name; an empty variable counts as absent. A
setting that is not understood gives way to its default, and the log says so.
-/

namespace Fieldwise

/-- Which clock tells the current date. -/
inductive ClockKind where
  | localTime
  | utc
  deriving DecidableEq, Repr

namespace ClockKind

def name : ClockKind → String
  | localTime => "local"
  | utc => "utc"

/-- The clock with exactly this name. -/
def ofName? (name : String) : Option ClockKind :=
  if name = "local" then some localTime else if name = "utc" then some utc else none

/-- The clock that a text names when case and blanks around the name are ignored, or what is said of
    a text that names none. -/
def read (text : String) : Except String ClockKind :=
  let name := String.ofList (lowerText (trimBlank text.toList))
  match ofName? name with
  | some clock => .ok clock
  | none => .error ("unknown clock kind: '" ++ name ++ "'")

end ClockKind

/-- The settings of a validator. -/
structure Config where
  /-- The profile under which the settings were read; empty for none. -/
  profile : String
  referenceYear : Int
  clock : ClockKind
  deriving DecidableEq, Repr

abbrev Environment := Table String

namespace Environment

/-- The value of a variable, unless it is empty. -/
def nonempty? (env : Environment) (key : String) : Option String :=
  (env.get? key).filter fun value => value ≠ ""

/-- The value of a variable under a profile: of the variable with the profile in front, else of the
    variable itself. -/
def profiled? (env : Environment) (profile key : String) : Option String :=
  if profile = "" then env.nonempty? key
  else (env.nonempty? (profile ++ "_" ++ key)).or (env.nonempty? key)

end Environment

namespace Config

def profileKey : String := "FIELDCHECK_PROFILE"

def clockKey : String := "FIELDCHECK_CLOCK"

def referenceYearKey : String := "FIELDCHECK_REFERENCE_YEAR"

/-- The clock that a setting names; the local clock without a setting, or with one that is not
    understood. -/
def readClock : Option String → Logged ClockKind
  | none => pure .localTime
  | some text =>
    match ClockKind.read text with
    | .ok clock => pure clock
    | .error e => do
      Logged.log [.invalidClock e]
      return .localTime

/-- The reference year that a setting holds; the default one without a setting, or with one that is
    not understood. -/
def readReferenceYear : Option String → Logged Int
  | none => pure defaultReferenceYear
  | some text =>
    match Numeral.int32? (trimBlank text.toList) with
    | some year => pure year
    | none => do
      Logged.log [.invalidSetting referenceYearKey text
        (String.ofList (Numeral.integer defaultReferenceYear))]
      return defaultReferenceYear

def forProfile (env : Environment) (profile : String) : Logged Config := do
  let profile := upperString profile
  let clock ← readClock (env.profiled? profile clockKey)
  let referenceYear ← readReferenceYear (env.profiled? profile referenceYearKey)
  return ⟨profile, referenceYear, clock⟩

def ofEnvironment (env : Environment) : Logged Config :=
  forProfile env (upperString ((env.get? profileKey).getD ""))

def profileLabel (c : Config) : String := if c.profile = "" then "default" else c.profile

/-- Reads the settings from the environment and logs them. -/
def load (env : Environment) : Logged Config := do
  let config ← ofEnvironment env
  Logged.log [.configLoaded config.profileLabel config.referenceYear config.clock.name]
  return config

end Config

end Fieldwise
