import CompileOnLoad.Files
import CompileOnLoad.Log.Event
import CompileOnLoad.Log.Ring

/-!
# Loggers

A logger has a level, sinks, and a stack of open spans.  Loggers are numbered in the order
in which they are made, and a sink may pass records on to an earlier logger, which applies
its own level and its own span.  What one call delivers is a list computed from the loggers
alone; the effects of the deliveries come after.
-/

namespace CompileOnLoad
namespace Log

inductive Sink where
  | ring (index : Nat)
  | logger (index : Nat)
  | file (place : Place)
  | events
  | standardError
  | memory
  /-- On each warning, the invalid patterns of a policy are removed. -/
  | pruner (policy : Nat)
  deriving DecidableEq, Repr

/-- A logger; the innermost open span comes first. -/
structure Logger where
  level : Level
  sinks : List Sink := []
  spans : List Nat := []
  nextSpan : Nat := 1
  deriving DecidableEq, Repr

namespace Logger

def silent : Logger := { level := .error }

def isEnabled (logger : Logger) (level : Level) : Bool :=
  level.passes logger.level

def record (logger : Logger) (now : UInt64) (level : Level) (target message : String) :
    Record :=
  ⟨now, level, target, logger.spans.head?, message⟩

/-- Opens a span; its number has not been used before. -/
def enter (logger : Logger) : Logger :=
  { logger with spans := logger.nextSpan :: logger.spans, nextSpan := logger.nextSpan + 1 }

def leave (logger : Logger) : Logger :=
  { logger with spans := logger.spans.tail }

def attach (logger : Logger) (sink : Sink) : Logger :=
  { logger with sinks := logger.sinks ++ [sink] }

def shown (logger : Logger) : String :=
  "Logger \x7b level: " ++ logger.level.label ++ ", sinks: " ++
    toString logger.sinks.length ++
    ", span_depth: " ++ toString logger.spans.length ++ " \x7d"

end Logger

structure Delivery where
  sink : Sink
  record : Record
  deriving DecidableEq, Repr

/-- What logging a message with a logger delivers, in the order of the sinks; the sinks of
an earlier logger stand where the sink that leads to it stands. -/
def deliveries (loggers : List Logger) (now : UInt64) (index : Nat) (level : Level)
    (target message : String) : List Delivery :=
  match loggers[index]? with
  | none => []
  | some logger =>
    if logger.isEnabled level then
      logger.sinks.flatMap fun sink =>
        match sink with
        | .logger earlier =>
          if earlier < index then deliveries loggers now earlier level target message else []
        | other => [⟨other, logger.record now level target message⟩]
    else []
termination_by index

structure Outlets where
  rings : List Ring := []
  files : Files := {}
  subscriber : Subscriber := .absent
  /-- The events that the collector has kept. -/
  events : List Event := []
  standardError : List Written := []
  /-- The records that sinks in memory have kept. -/
  memory : List Record := []
  deriving DecidableEq, Repr

namespace Outlets

def publish (outlets : Outlets) (event : Event) : Outlets :=
  match outlets.subscriber with
  | .absent => outlets
  | .collector => { outlets with events := outlets.events ++ [event] }
  | .writer minimum layout =>
    if event.level.passes minimum then
      { outlets with standardError := outlets.standardError ++ [event.written layout] }
    else outlets

def receive (outlets : Outlets) (delivery : Delivery) : Outlets :=
  let record := delivery.record
  match delivery.sink with
  | .ring index => { outlets with rings := outlets.rings.modify index (·.push record) }
  | .file place =>
    { outlets with
      files := outlets.files.append place (Utf8.encode (record.line ++ "\n").toList) }
  | .events => outlets.publish (Event.ofRecord record)
  | .standardError =>
    { outlets with standardError := outlets.standardError ++ [.line record.line] }
  | .memory => { outlets with memory := outlets.memory ++ [record] }
  | .logger _ => outlets
  | .pruner _ => outlets

end Outlets

/-- The loggers of a process and what they write to.  A guard stands for an open span of a
logger: it knows the logger until it is dropped. -/
structure Logging where
  loggers : List Logger := []
  guards : List (Option Nat) := []
  outlets : Outlets := {}
  /-- The reading of the clock. -/
  now : UInt64 := 0
  deriving DecidableEq, Repr

namespace Logging

def logger (logging : Logging) (index : Nat) : Logger :=
  logging.loggers.getD index Logger.silent

def update (logging : Logging) (index : Nat) (f : Logger -> Logger) : Logging :=
  { logging with loggers := logging.loggers.modify index f }

def add (logging : Logging) (level : Level) : Nat × Logging :=
  (logging.loggers.length, { logging with loggers := logging.loggers ++ [{ level }] })

def attach (logging : Logging) (index : Nat) (sink : Sink) : Logging :=
  logging.update index (·.attach sink)

def withRing (logging : Logging) (ring : Ring) : Logging :=
  { logging with
    outlets := { logging.outlets with rings := logging.outlets.rings ++ [ring] } }

def addRing (logging : Logging) (capacity : Nat) : Except Panic (Nat × Logging) :=
  (Ring.make capacity).map fun ring => (logging.outlets.rings.length, logging.withRing ring)

def attachFile (logging : Logging) (index : Nat) (path : Path) : Logging :=
  match logging.outlets.files.openForAppending path with
  | .error _ => logging
  | .ok (place, files) =>
    { logging with outlets := { logging.outlets with files } }.attach index (.file place)

def isEnabled (logging : Logging) (index : Nat) (level : Level) : Bool :=
  (logging.logger index).isEnabled level

def deliveries (logging : Logging) (index : Nat) (level : Level) (target message : String) :
    List Delivery :=
  Log.deliveries logging.loggers logging.now index level target message

def receive (logging : Logging) (delivery : Delivery) : Logging :=
  { logging with outlets := logging.outlets.receive delivery }

def log (logging : Logging) (index : Nat) (level : Level) (target message : String) :
    Logging :=
  (logging.deliveries index level target message).foldl receive logging

def setLevel (logging : Logging) (index : Nat) (level : Level) : Logging :=
  logging.update index fun logger => { logger with level }

/-- Opens a span with a guard; the number of the guard is the number of guards before it. -/
def enter (logging : Logging) (index : Nat) : Nat × Logging :=
  (logging.guards.length,
    { logging.update index Logger.enter with guards := logging.guards ++ [some index] })

/-- Drops a guard: the innermost span of its logger closes, whichever the guard was made
for.  A guard that was dropped before does nothing. -/
def drop (logging : Logging) (guard : Nat) : Logging :=
  match logging.guards.getD guard none with
  | none => logging
  | some index =>
    { logging.update index Logger.leave with guards := logging.guards.set guard none }

def clearRing (logging : Logging) (index : Nat) : Logging :=
  { logging with
    outlets :=
      { logging.outlets with rings := logging.outlets.rings.modify index Ring.clear } }

def takeEvents (logging : Logging) : List Event × Logging :=
  (logging.outlets.events, { logging with outlets := { logging.outlets with events := [] } })

end Logging
end Log
end CompileOnLoad
