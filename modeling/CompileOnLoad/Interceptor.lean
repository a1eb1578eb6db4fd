import CompileOnLoad.Host.Dispatch

/-!
# Interceptors

An interceptor that is switched on gives every load to its engine, through a hook that runs
before all actions of the host, and first gives it all files that were loaded before.
-/

namespace CompileOnLoad

structure SweepReport where
  visited : Nat := 0
  tally : Tally := {}
  deriving DecidableEq, Repr

def SweepReport.note (report : SweepReport) (outcome : Outcome) : SweepReport :=
  ⟨report.visited + 1, report.tally.count outcome⟩

namespace Interceptor

variable {Key Memory : Type}

def target : String := "warmload_core::interceptor"

def sweepFiles (routines : Routines Key Memory) (perform : Performer Key Memory)
    (engine : Nat) : SweepReport -> List LoadedFile -> Act Key Memory SweepReport
  | report, [] => fun host => (.returned report, host)
  | report, file :: rest =>
    (Engine.compile routines perform engine (some file.source)).andThen fun outcome =>
      sweepFiles routines perform engine (report.note outcome) rest

def sweep (routines : Routines Key Memory) (perform : Performer Key Memory) (index : Nat) :
    Act Key Memory SweepReport := fun host =>
  let interceptor := host.interceptor index
  let files := host.history
  let host := host.enterSpan interceptor.logger
  let host := host.log interceptor.logger .debug target
    ("sweeping " ++ toString files.length ++ " previously loaded files")
  let (ending, host) := sweepFiles routines perform interceptor.engine {} files host
  match ending with
  | .returned report =>
    let host := host.log interceptor.logger .debug target
      ("sweep done: " ++ toString report.tally.compiled ++ " compiled, " ++
        toString report.tally.skipped ++ " skipped, " ++
        toString report.tally.failed ++ " failed")
    (.returned report, host.leaveSpan interceptor.logger)
  | .panicked panic => (.panicked panic, host.leaveSpan interceptor.logger)
  | .exhausted => (.exhausted, host.leaveSpan interceptor.logger)

/-- Switches an interceptor on; one that is active stays as it is and gives no report. -/
def enable (routines : Routines Key Memory) (perform : Performer Key Memory) (index : Nat) :
    Act Key Memory (Option SweepReport) := fun host =>
  let interceptor := host.interceptor index
  if interceptor.activation.isActive then
    (.returned none, host.log interceptor.logger .debug target "interception already enabled")
  else
    let (hook, host) := host.register Priority.reserved (.hook interceptor.engine)
    let host := host.setActivation index (.active hook)
    let host := host.log interceptor.logger .info target "interception enabled"
    ((sweep routines perform index).andThen fun report host =>
      (.returned (some report), host))
      host

/-- Switches an interceptor off, and says whether it was active.  Loads that are queued stay
queued. -/
def disable (index : Nat) (host : Host Key Memory) : Bool × Host Key Memory :=
  let interceptor := host.interceptor index
  match interceptor.activation with
  | .inactive => (false, host)
  | .active hook =>
    let host := host.setActivation index .inactive
    let (found, host) := host.unregister hook
    let host :=
      if found then host
      else
        host.log interceptor.logger .debug target
          ("hook " ++ Activation.hookShown hook ++ " was already removed from the pipeline")
    (true, host.log interceptor.logger .info target "interception disabled")

def handle (routines : Routines Key Memory) (perform : Performer Key Memory) (index : Nat)
    (path? : Option Path) : Act Key Memory Disposition := fun host =>
  ((Engine.compile routines perform (host.interceptor index).engine path?).andThen
    fun outcome host => (.returned outcome.disposition, host)) host

end Interceptor
end CompileOnLoad
