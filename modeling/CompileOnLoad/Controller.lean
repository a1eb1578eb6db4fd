import CompileOnLoad.Facade

/-!
# Controllers

Interception is controlled through an interceptor or through a facade.  A controller is
either of them, so that both can be given the same orders.
-/

namespace CompileOnLoad

inductive Controller where
  | direct (interceptor : Nat)
  | facade (facade : Facade)
  deriving DecidableEq, Repr

namespace Controller

variable {Key Memory : Type}

def interceptor : Controller -> Nat
  | direct index => index
  | facade f => f.interceptor

def engine (controller : Controller) (host : Host Key Memory) : Nat :=
  (host.interceptor controller.interceptor).engine

def activation (controller : Controller) (host : Host Key Memory) : Activation :=
  (host.interceptor controller.interceptor).activation

def enable (routines : Routines Key Memory) (perform : Performer Key Memory) :
    Controller -> Act Key Memory (Option SweepReport)
  | direct index => Interceptor.enable routines perform index
  | facade f => Facade.enable routines perform f

def disable : Controller -> Host Key Memory -> Bool × Host Key Memory
  | direct index => Interceptor.disable index
  | facade f => f.disable

/-- Gives a file to the engine, outside of any load; a facade is given files with a path
only. -/
def compile (routines : Routines Key Memory) (perform : Performer Key Memory) :
    Controller -> Option Path -> Act Key Memory Outcome
  | facade f, some path => Facade.compile routines perform f path
  | controller, path? => fun host =>
    Engine.compile routines perform (controller.engine host) path? host

def isEligible (host : Host Key Memory) : Controller -> Option Path -> Bool
  | facade f, some path => f.isEligible path host
  | controller, path? => host.isEligible (controller.engine host) path?

def tally (host : Host Key Memory) : Controller -> Tally
  | facade f => f.tally host
  | controller => (host.engine (controller.engine host)).tally

def reloadPolicy (policy : Nat) (path : Path) (host : Host Key Memory) :
    Controller -> Except Failure Unit × Host Key Memory
  | direct _ =>
    let (answer, host) := host.reloadPolicy policy path
    (answer.mapError .config, host)
  | facade f => f.reloadPolicy path host

def shown (host : Host Key Memory) : Controller -> String
  | direct index => host.interceptorShown index
  | facade f => f.shown host

end Controller
end CompileOnLoad
