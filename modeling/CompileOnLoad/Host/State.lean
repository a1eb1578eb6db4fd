import CompileOnLoad.Context
import CompileOnLoad.Filter
import CompileOnLoad.Host.Failure
import CompileOnLoad.Host.Observer
import CompileOnLoad.Host.Queue

/-!
# Hosts

A host is a process that loads files.  Its state is its observers, its queue, what it has
loaded, the suffixes of its source files, and the engines and interceptors that work in it.
-/

namespace CompileOnLoad

structure LoadedFile where
  source : Path
  artifact : Option Path
  deriving DecidableEq, Repr

inductive Outcome where
  | skipped
  | compiled (artifact : Path)
  | failed (failure : CompileFailure)
  deriving DecidableEq, Repr

namespace Outcome

def isCompiled : Outcome -> Bool
  | compiled _ => true
  | _ => false

/-- A compiled file is loaded again later, so the observers after the hook do not see it
now. -/
def disposition : Outcome -> Disposition
  | compiled _ => .handled
  | _ => .passThrough

end Outcome

structure Tally where
  skipped : Nat := 0
  compiled : Nat := 0
  failed : Nat := 0
  deriving DecidableEq, Repr

namespace Tally

def count (tally : Tally) : Outcome -> Tally
  | .skipped => { tally with skipped := tally.skipped + 1 }
  | .compiled _ => { tally with compiled := tally.compiled + 1 }
  | .failed _ => { tally with failed := tally.failed + 1 }

def total (tally : Tally) : Nat := tally.skipped + tally.compiled + tally.failed

def shown (tally : Tally) : String :=
  "EngineStats \x7b skipped: " ++ toString tally.skipped ++ ", compiled: " ++
    toString tally.compiled ++ ", failed: " ++ toString tally.failed ++ " \x7d"

end Tally

structure Engine where
  policy : Nat
  logger : Nat
  tally : Tally := {}
  deriving DecidableEq, Repr

/-- An interceptor is active while its hook is registered; it knows the number of the hook. -/
inductive Activation where
  | inactive
  | active (hook : Nat)
  deriving DecidableEq, Repr

namespace Activation

def hook? : Activation -> Option Nat
  | inactive => none
  | active id => some id

def isActive (activation : Activation) : Bool := activation.hook?.isSome

def hookShown (id : Nat) : String := "ObserverId(" ++ toString id ++ ")"

def shown : Activation -> String
  | inactive => "Inactive"
  | active id => "Active(" ++ hookShown id ++ ")"

end Activation

structure Interceptor where
  engine : Nat
  logger : Nat
  activation : Activation := .inactive
  deriving DecidableEq, Repr

/-- A host; `memory` is what its routines keep for themselves. -/
structure Host (Key Memory : Type) where
  context : Context := {}
  /-- The logger of the pipeline and of the queue. -/
  logger : Nat := 0
  suffixes : List String := []
  history : List LoadedFile := []
  queue : Queue := []
  pipeline : Pipeline Key := {}
  engines : List Engine := []
  interceptors : List Interceptor := []
  memory : Memory

namespace Host

variable {Key Memory : Type}

def engine (host : Host Key Memory) (index : Nat) : Engine :=
  host.engines.getD index ⟨0, 0, {}⟩

def interceptor (host : Host Key Memory) (index : Nat) : Interceptor :=
  host.interceptors.getD index ⟨0, 0, .inactive⟩

def policy (host : Host Key Memory) (handle : Nat) : Policy :=
  host.context.policy handle

def log (host : Host Key Memory) (logger : Nat) (level : Log.Level)
    (target message : String) : Host Key Memory :=
  { host with context := host.context.log logger level target message }

def enterSpan (host : Host Key Memory) (logger : Nat) : Host Key Memory :=
  { host with context := host.context.enterSpan logger }

def leaveSpan (host : Host Key Memory) (logger : Nat) : Host Key Memory :=
  { host with context := host.context.leaveSpan logger }

def updatePolicy (host : Host Key Memory) (handle : Nat) (f : Policy -> Policy) :
    Host Key Memory :=
  { host with context := host.context.updatePolicy handle f }

/-- Puts the policy of a file in the place of another; if it is refused, nothing changes. -/
def reloadPolicy (host : Host Key Memory) (handle : Nat) (path : Path) :
    Except ConfigError Unit × Host Key Memory :=
  let (answer, context) := host.context.reloadPolicy handle path
  (answer, { host with context })

def count (host : Host Key Memory) (engine : Nat) (outcome : Outcome) : Host Key Memory :=
  { host with
    engines := host.engines.modify engine fun e => { e with tally := e.tally.count outcome } }

def setActivation (host : Host Key Memory) (interceptor : Nat) (activation : Activation) :
    Host Key Memory :=
  { host with
    interceptors := host.interceptors.modify interceptor fun i => { i with activation } }

def addEngine (host : Host Key Memory) (policy logger : Nat) : Nat × Host Key Memory :=
  (host.engines.length, { host with engines := host.engines ++ [⟨policy, logger, {}⟩] })

def addInterceptor (host : Host Key Memory) (engine logger : Nat) : Nat × Host Key Memory :=
  (host.interceptors.length,
    { host with interceptors := host.interceptors ++ [⟨engine, logger, .inactive⟩] })

def enqueue (host : Host Key Memory) (request : Request) : Host Key Memory :=
  { host with queue := host.queue.add request }

def remember (host : Host Key Memory) (file : LoadedFile) : Host Key Memory :=
  { host with history := host.history ++ [file] }

def register (host : Host Key Memory) (priority : Priority) (observer : Observer Key) :
    Nat × Host Key Memory :=
  let (id, pipeline) := host.pipeline.register priority observer
  (id, { host with pipeline })

def unregister (host : Host Key Memory) (id : Nat) : Bool × Host Key Memory :=
  let (found, pipeline) := host.pipeline.unregister id
  (found, { host with pipeline })

def isEligible (host : Host Key Memory) (engine : Nat) (path? : Option Path) : Bool :=
  CompileOnLoad.isEligible path? (host.policy (host.engine engine).policy) host.suffixes

def engineShown (host : Host Key Memory) (index : Nat) : String :=
  let engine := host.engine index
  "CompileEngine \x7b policy: " ++ (host.policy engine.policy).shownShared ++ ", stats: " ++
    engine.tally.shown ++ " \x7d"

def interceptorShown (host : Host Key Memory) (index : Nat) : String :=
  let interceptor := host.interceptor index
  "LoadInterceptor \x7b state: " ++ interceptor.activation.shown ++ ", engine: " ++
    host.engineShown interceptor.engine ++ " \x7d"

def bindingsShown (host : Host Key Memory) : String :=
  "HostBindings \x7b suffixes: [" ++ String.intercalate ", " (host.suffixes.map quoteText) ++
    "], history_len: " ++ toString host.history.length ++ " \x7d"

end Host
end CompileOnLoad
