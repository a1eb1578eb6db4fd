import CompileOnLoad.Host.Priority

/-!
# Observers

Observers are told of every load, one after the other, until one of them handles it.  They
are kept in ascending order of priority, and those of equal priority in the order of
registration.
-/

namespace CompileOnLoad

inductive Disposition where
  | handled
  | passThrough
  deriving DecidableEq, Repr

def Disposition.label : Disposition -> String
  | handled => "Handled"
  | passThrough => "PassThrough"

/-- An observer: the hook of an engine, or an action of the host, which knows it by a key. -/
inductive Observer (Key : Type) where
  | hook (engine : Nat)
  | action (name : String) (key : Key)
  deriving DecidableEq, Repr

def hookName : String := "warmload::intercept"

def Observer.name : Observer Key -> String
  | hook _ => hookName
  | action name _ => name

/-- An observer in its place; its number stands for it when it is taken out. -/
structure Registration (Key : Type) where
  id : Nat
  priority : Priority
  observer : Observer Key
  deriving DecidableEq, Repr

structure Pipeline (Key : Type) where
  registrations : List (Registration Key) := []
  nextId : Nat := 1
  deriving DecidableEq, Repr

namespace Pipeline

/-- Puts a registration before the first whose priority is greater. -/
def insert (registration : Registration Key) :
    List (Registration Key) -> List (Registration Key)
  | [] => [registration]
  | first :: rest =>
    if registration.priority.rank < first.priority.rank then registration :: first :: rest
    else first :: insert registration rest

def register (pipeline : Pipeline Key) (priority : Priority) (observer : Observer Key) :
    Nat × Pipeline Key :=
  let id := pipeline.nextId
  (id, ⟨insert ⟨id, priority, observer⟩ pipeline.registrations, id + 1⟩)

def unregister (pipeline : Pipeline Key) (id : Nat) : Bool × Pipeline Key :=
  (pipeline.registrations.any (·.id = id),
    { pipeline with registrations := pipeline.registrations.filter (·.id ≠ id) })

def observers (pipeline : Pipeline Key) : List (Observer Key) :=
  pipeline.registrations.map (·.observer)

def names (pipeline : Pipeline Key) : List String :=
  pipeline.observers.map Observer.name

end Pipeline
end CompileOnLoad
