import CompileOnLoad.Engine

/-!
# Announcing loads and running the queue

A load is announced to the observers that are registered when the announcement begins.  A
round of the queue makes as many attempts as requests were waiting when it began.
-/

namespace CompileOnLoad
namespace Host

variable {Key Memory : Type}

def pipelineTarget : String := "warmload_core::host::pipeline"

def queueTarget : String := "warmload_core::host::queue"

def visit (routines : Routines Key Memory) (perform : Performer Key Memory)
    (path? : Option Path) : Observer Key -> Act Key Memory Disposition
  | .hook engine =>
    (Engine.compile routines perform engine path?).andThen fun outcome host =>
      (.returned outcome.disposition, host)
  | .action _ key => (routines.observe key path?).run perform

def unknownPath : String := "<unknown>"

def pathText (path? : Option Path) : String :=
  match path? with
  | some path => path.text
  | none => unknownPath

def reportVisit (path? : Option Path) (name : String) (disposition : Disposition)
    (host : Host Key Memory) : Host Key Memory :=
  let host := host.log host.logger .trace pipelineTarget
    ("observer " ++ name ++ " -> " ++ disposition.label)
  match disposition with
  | .passThrough => host
  | .handled =>
    host.log host.logger .debug pipelineTarget
      ("load of " ++ pathText path? ++ " handled by " ++ name ++
        "; remaining after-load actions suppressed")

/-- Tells observers of a load, one after the other, until one handles it. -/
def visitAll (routines : Routines Key Memory) (perform : Performer Key Memory)
    (path? : Option Path) : List (Observer Key) -> Act Key Memory DispatchReport
  | [] => fun host => (.returned {}, host)
  | observer :: rest =>
    (visit routines perform path? observer).andThen fun disposition host =>
      let name := observer.name
      let host := reportVisit path? name disposition host
      match disposition with
      | .handled => (.returned { ran := [name], handledBy := some name }, host)
      | .passThrough =>
        ((visitAll routines perform path? rest).andThen fun report host =>
          (.returned { report with ran := name :: report.ran }, host)) host

def announce (routines : Routines Key Memory) (perform : Performer Key Memory)
    (path? : Option Path) : Act Key Memory DispatchReport := fun host =>
  visitAll routines perform path? host.pipeline.observers host

def load (routines : Routines Key Memory) (perform : Performer Key Memory) (source : Path) :
    Act Key Memory DispatchReport := fun host =>
  announce routines perform (some source) (host.remember ⟨source, none⟩)

def execute (routines : Routines Key Memory) (perform : Performer Key Memory)
    (artifact : Path) : Act Key Memory (Except LoadFailure Unit) :=
  ((routines.link artifact).run perform).andThen fun linked host =>
    match linked with
    | .ok () =>
      ((announce routines perform (some artifact)).andThen fun _ host =>
        (.returned (.ok ()), host))
        (host.log host.logger .debug queueTarget ("Loaded " ++ artifact.text))
    | .error failure =>
      (.returned (.error failure), host.log host.logger .error queueTarget failure.message)

/-- Takes up to `n` requests from the queue, one after the other, and executes them. -/
def runRequests (routines : Routines Key Memory) (perform : Performer Key Memory) :
    Nat -> Act Key Memory RunReport
  | 0 => fun host => (.returned {}, host)
  | n + 1 => fun host =>
    match host.queue with
    | [] => (.returned {}, host)
    | request :: queue =>
      ((execute routines perform request.artifact).andThen fun result =>
        (runRequests routines perform n).andThen fun report host =>
          (.returned (RunReport.note request.artifact result report), host))
        { host with queue }

def runPending (routines : Routines Key Memory) (perform : Performer Key Memory) :
    Act Key Memory RunReport := fun host =>
  runRequests routines perform host.queue.length host

/-- Carries out a call, with calls nested to at most the given depth in those routines that
it runs. -/
def perform (routines : Routines Key Memory) (depth : Nat) : Performer Key Memory :=
  fun call => match call with
  | .register priority name key => Act.ofPure (·.register priority (.action name key))
  | .unregister id => Act.ofPure (·.unregister id)
  | .enqueue request => Act.ofPure fun host => ((), host.enqueue request)
  | .editPolicy handle edit => Act.ofPure fun host => ((), host.updatePolicy handle edit)
  | .load source =>
    match depth with
    | 0 => fun host => (.exhausted, host)
    | depth + 1 => load routines (perform routines depth) source
  | .announce path? =>
    match depth with
    | 0 => fun host => (.exhausted, host)
    | depth + 1 => announce routines (perform routines depth) path?
  | .runPending =>
    match depth with
    | 0 => fun host => (.exhausted, host)
    | depth + 1 => runPending routines (perform routines depth)
  | .compile engine path? =>
    match depth with
    | 0 => fun host => (.exhausted, host)
    | depth + 1 => Engine.compile routines (perform routines depth) engine path?

end Host
end CompileOnLoad
