import CompileOnLoad.Host.State

/-!
# Scripts

What a routine of a host does is a script: it looks into the memory of the host and changes
it, calls back into the host, and ends with a value or breaks off.  Running a script takes
the host from one state to another; what the calls do is given to it.
-/

namespace CompileOnLoad

/-- What was done when a load was announced: the names of the observers that ran, in order,
and the one that handled it. -/
structure DispatchReport where
  ran : List String := []
  handledBy : Option String := none
  deriving DecidableEq, Repr

structure RunReport where
  loaded : List Path := []
  failed : List LoadFailure := []
  deriving DecidableEq, Repr

def RunReport.note (artifact : Path) (result : Except LoadFailure Unit) (report : RunReport) :
    RunReport :=
  match result with
  | .ok () => { report with loaded := artifact :: report.loaded }
  | .error failure => { report with failed := failure :: report.failed }

inductive Call (Key : Type) where
  | register (priority : Priority) (name : String) (key : Key)
  | unregister (id : Nat)
  | enqueue (request : Request)
  | editPolicy (handle : Nat) (edit : Policy -> Policy)
  | load (source : Path)
  | announce (path? : Option Path)
  | runPending
  | compile (engine : Nat) (path? : Option Path)

def Call.Answer : Call Key -> Type
  | register _ _ _ => Nat
  | unregister _ => Bool
  | enqueue _ => Unit
  | editPolicy _ _ => Unit
  | load _ => DispatchReport
  | announce _ => DispatchReport
  | runPending => RunReport
  | compile _ _ => Outcome

/-- What a routine of the host does. -/
inductive Script (Key Memory α : Type) where
  | done (a : α)
  | panic (panic : Panic)
  | consult (next : Memory -> Script Key Memory α)
  | store (memory : Memory) (next : Script Key Memory α)
  | call (call : Call Key) (next : call.Answer -> Script Key Memory α)

/-- How an act ends: with a value, by breaking off, or because calls were nested too
deeply. -/
inductive Ending (α : Type) where
  | returned (a : α)
  | panicked (panic : Panic)
  | exhausted
  deriving DecidableEq, Repr

/-- What takes a host from one state to another. -/
abbrev Act (Key Memory α : Type) := Host Key Memory -> Ending α × Host Key Memory

namespace Act

variable {Key Memory α β : Type}

def ofPure (f : Host Key Memory -> α × Host Key Memory) : Act Key Memory α := fun host =>
  let (a, host) := f host
  (.returned a, host)

def andThen (act : Act Key Memory α) (next : α -> Act Key Memory β) : Act Key Memory β :=
  fun host =>
    match act host with
    | (.returned a, host) => next a host
    | (.panicked panic, host) => (.panicked panic, host)
    | (.exhausted, host) => (.exhausted, host)

end Act

abbrev Performer (Key Memory : Type) := (call : Call Key) -> Act Key Memory call.Answer

namespace Script

variable {Key Memory α β : Type}

def run (perform : Performer Key Memory) : Script Key Memory α -> Act Key Memory α
  | done a => fun host => (.returned a, host)
  | panic p => fun host => (.panicked p, host)
  | consult next => fun host => (next host.memory).run perform host
  | store memory next => fun host => next.run perform { host with memory }
  | call c next => (perform c).andThen fun answer => (next answer).run perform

def andThen : Script Key Memory α -> (α -> Script Key Memory β) -> Script Key Memory β
  | done a, rest => rest a
  | panic p, _ => panic p
  | consult next, rest => consult fun memory => (next memory).andThen rest
  | store memory next, rest => store memory (next.andThen rest)
  | call c next, rest => call c fun answer => (next answer).andThen rest

def IsQuiet : Script Key Memory α -> Prop
  | done _ => True
  | panic _ => True
  | consult next => forall memory, (next memory).IsQuiet
  | store _ next => next.IsQuiet
  | call _ _ => False

end Script

/-- The routines that a host supplies: how a source file is compiled for an engine, how an
artifact is loaded, and what an action does when a load is announced to it. -/
structure Routines (Key Memory : Type) where
  compile : (engine : Nat) -> (source : Path) ->
    Script Key Memory (Except CompileFailure Path)
  link : (artifact : Path) -> Script Key Memory (Except LoadFailure Unit)
  observe : Key -> (path? : Option Path) -> Script Key Memory Disposition

end CompileOnLoad
