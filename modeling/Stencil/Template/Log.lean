import Stencil.Data.Fault

/-!
# Computations that keep a log

A render writes notices while it goes on.  A logged computation is its log and
its outcome; a fault keeps what was written before it.
-/

namespace Stencil

/-- How important a notice is. -/
inductive Level where
  | debug
  | info
  | warning
  | error
  deriving DecidableEq, Repr

/-- What is written to the log, by cause. -/
inductive Notice where
  | undefinedVariable (name : Text)
  | notIterable (name : Text)
  | unknownName (kind : Callable) (name : Text)
  | includeMissing (target : Text)
  | includeRecursive (target : Text)
  | includeFailed (name : Text) (fault : Fault)
  | syntaxErrors (view : Text) (problems : List Text)
  | cached (view : Text)
  | stable (passes : Nat)
  | changing (passes : Nat)
  /-- What a hook has to say. -/
  | remark (content : Text)
  deriving DecidableEq, Repr

namespace Level

def word : Level → Text
  | debug => "debug".toList
  | info => "info".toList
  | warning => "warning".toList
  | error => "error".toList

end Level

namespace Notice

def level : Notice → Level
  | undefinedVariable _ | notIterable _ | unknownName .. | includeMissing _
  | includeRecursive _ | syntaxErrors .. => .warning
  | includeFailed .. => .error
  | cached _ | stable _ | changing _ | remark _ => .debug

/-- The wording of a notice; `describe` names a fault. -/
def message (describe : Fault → Text) : Notice → Text
  | undefinedVariable name => "Undefined template variable: ".toList ++ name
  | notIterable name =>
      "Variable '".toList ++ name ++ "' is not an iterable sequence or mapping".toList
  | unknownName kind name => "Unknown ".toList ++ kind.word ++ ": ".toList ++ name
  | includeMissing target => "Include file not found: ".toList ++ target
  | includeRecursive target => "Recursive include skipped: ".toList ++ target
  | includeFailed name fault =>
      "Error processing include ".toList ++ name ++ ": ".toList ++ describe fault
  | syntaxErrors view problems =>
      "Syntax errors in view ".toList ++ view ++ ": ".toList
        ++ Text.join "; ".toList problems
  | cached view => "Using cached view ".toList ++ view
  | stable passes =>
      "Template stable after ".toList ++ Text.ofNat passes ++ " passes".toList
  | changing passes =>
      "Template still changing after ".toList ++ Text.ofNat passes ++ " passes".toList
  | remark content => content

end Notice

/-- A log and the outcome it leads to. -/
structure Logged (α : Type) where
  log : List Notice
  outcome : Except Fault α

namespace Logged

protected def pure (value : α) : Logged α := ⟨[], .ok value⟩

/-- One computation after the other, unless the first one fails. -/
protected def bind (first : Logged α) (next : α → Logged β) : Logged β :=
  match first.outcome with
  | .ok value => ⟨first.log ++ (next value).log, (next value).outcome⟩
  | .error fault => ⟨first.log, .error fault⟩

instance : Monad Logged where
  pure := Logged.pure
  bind := Logged.bind

def note (notice : Notice) : Logged Unit := ⟨[notice], .ok ()⟩

def fail (fault : Fault) : Logged α := ⟨[], .error fault⟩

/-- A computation that writes nothing. -/
def lift (outcome : Except Fault α) : Logged α := ⟨[], outcome⟩

@[simp] theorem outcome_pure (value : α) :
    (pure value : Logged α).outcome = .ok value := rfl

@[simp] theorem outcome_bind (first : Logged α) (next : α → Logged β) :
    (first >>= next).outcome = first.outcome.bind fun value => (next value).outcome := by
  show (Logged.bind first next).outcome = _
  unfold Logged.bind
  cases first.outcome <;> rfl

@[simp] theorem outcome_note (notice : Notice) : (note notice).outcome = .ok () := rfl

@[simp] theorem outcome_fail (fault : Fault) :
    (fail fault : Logged α).outcome = .error fault := rfl

@[simp] theorem outcome_lift (outcome : Except Fault α) : (lift outcome).outcome = outcome := rfl

/-- The texts that a computation gives for the members of a list, one after
the other. -/
def concat (render : α → Logged Text) : List α → Logged Text
  | [] => pure []
  | first :: later => do
      let text ← render first
      let rest ← concat render later
      return text ++ rest

end Logged

end Stencil
