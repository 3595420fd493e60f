import Fieldwise.Decimal.Numeral
import Fieldwise.Calendar.Error
import Fieldwise.Rule.Spec

/-!
The event log. Each constructor of `Event` is something that is logged; a level, a message and named
fields are told of it. A `Logged` value is the result of a computation with the events of the
computation, in the order in which they happened.
-/

namespace Fieldwise

/-- How important an event is. -/
inductive Level where
  | trace
  | debug
  | info
  | warn
  deriving DecidableEq, Repr

def Level.name : Level → String
  | trace => "TRACE"
  | debug => "DEBUG"
  | info => "INFO"
  | warn => "WARN"

/-- Something that is logged. -/
inductive Event where
  | dateUnresolved (error : DateError) (pattern : String)
  | skippedNull (field : String) (rule : RuleSpec)
  | ruleFailed (field : String) (rule : RuleSpec) (key : String)
  | validationFinished (fields failures : Nat) (success : Bool)
  | invalidClock (text : String)
  /-- Another setting is not understood. -/
  | invalidSetting (key value fallback : String)
  | configLoaded (profile : String) (referenceYear : Int) (clock : String)
  deriving DecidableEq

namespace Event

def level : Event → Level
  | dateUnresolved .. => .trace
  | skippedNull .. => .trace
  | ruleFailed .. => .debug
  | validationFinished .. => .debug
  | invalidClock .. => .warn
  | invalidSetting .. => .warn
  | configLoaded .. => .info

def message : Event → String
  | dateUnresolved .. => "date did not resolve"
  | skippedNull .. => "skipped nil value"
  | ruleFailed .. => "rule failed"
  | validationFinished .. => "validation finished"
  | invalidClock .. => "invalid FIELDCHECK_CLOCK, using local clock"
  | invalidSetting .. => "invalid config value, using default"
  | configLoaded .. => "fieldcheck config loaded"

def fields : Event → List (String × String)
  | dateUnresolved error pattern => [("error", error.message), ("format", pattern)]
  | skippedNull field rule => [("field", field), ("rule", rule.text)]
  | ruleFailed field rule key => [("field", field), ("rule", rule.text), ("key", key)]
  | validationFinished fields failures success =>
    [("fields", String.ofList (Numeral.natural fields)),
      ("failures", String.ofList (Numeral.natural failures)),
      ("success", if success then "true" else "false")]
  | invalidClock text => [("error", text)]
  | invalidSetting key value fallback => [("key", key), ("value", value), ("fallback", fallback)]
  | configLoaded profile referenceYear clock =>
    [("profile", profile), ("reference_year", String.ofList (Numeral.integer referenceYear)),
      ("clock", clock)]

end Event

/-- A value with the events that happened on the way to it. -/
structure Logged (α : Type) where
  value : α
  events : List Event

namespace Logged

variable {α β : Type}

instance : Monad Logged where
  pure a := ⟨a, []⟩
  bind x f := ⟨(f x.value).value, x.events ++ (f x.value).events⟩

def log (events : List Event) : Logged Unit := ⟨(), events⟩

@[simp] theorem value_pure (a : α) : (pure a : Logged α).value = a := rfl

@[simp] theorem events_pure (a : α) : (pure a : Logged α).events = [] := rfl

@[simp] theorem value_bind (x : Logged α) (f : α → Logged β) :
    (x >>= f).value = (f x.value).value := rfl

@[simp] theorem events_bind (x : Logged α) (f : α → Logged β) :
    (x >>= f).events = x.events ++ (f x.value).events := rfl

@[simp] theorem events_log (events : List Event) : (log events).events = events := rfl

instance : LawfulMonad Logged := LawfulMonad.mk' Logged
  (fun x => by simp [Functor.map])
  (fun _ _ => rfl)
  (fun x f g => by simp [bind])

/-- A run of logged steps comes to the value to which the steps alone come. -/
theorem value_foldlM (f : β → α → Logged β) (xs : List α) (b : β) :
    (xs.foldlM f b).value = xs.foldl (fun b x => (f b x).value) b := by
  induction xs generalizing b with
  | nil => rfl
  | cons x rest ih => rw [List.foldlM_cons, value_bind, ih, List.foldl_cons]

/-- A run of steps that log the same whatever they start from logs this, step by step. -/
theorem events_foldlM {f : β → α → Logged β} {events : α → List Event}
    (h : ∀ b x, (f b x).events = events x) (xs : List α) (b : β) :
    (xs.foldlM f b).events = xs.flatMap events := by
  induction xs generalizing b with
  | nil => rfl
  | cons x rest ih => rw [List.foldlM_cons, events_bind, h, ih, List.flatMap_cons]

end Logged

end Fieldwise
