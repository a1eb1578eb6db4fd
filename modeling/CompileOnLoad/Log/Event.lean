import CompileOnLoad.Log.Record
import CompileOnLoad.Text.Quoted

/-!
# Forwarded events

A sink may forward records as events to the one subscriber of the process.  The subscriber
drops events below its level and writes the others to standard error, as JSON objects or as
compact lines.
-/

namespace CompileOnLoad
namespace Log

/-- A record on its way to the subscriber; the subscriber puts its own time on it. -/
structure Event where
  level : Level
  target : String
  span : Option Nat
  message : String
  deriving DecidableEq, Repr

def Event.ofRecord (r : Record) : Event :=
  ⟨r.level, r.target, r.span, r.message⟩

inductive Layout where
  | compact
  | json
  deriving DecidableEq, Repr

/-- Who receives events: nobody, a collector that keeps all of them, or a writer with a
level. -/
inductive Subscriber where
  | absent
  | collector
  | writer (minimum : Level) (layout : Layout)
  deriving DecidableEq, Repr

/-- What is written to standard error: text, or an event as a JSON object. -/
inductive Written where
  | line (text : String)
  | object (event : Event)
  deriving DecidableEq, Repr

/-- Control characters that could steer a terminal are shown by number in compact lines. -/
def escapeControl (c : Char) : List Char :=
  if c = '\x1b' then ['\\', 'x', '1', 'b']
  else if c = '\x07' then ['\\', 'x', '0', '7']
  else if c = '\x08' then ['\\', 'x', '0', '8']
  else if c = '\x0c' then ['\\', 'x', '0', 'c']
  else if c = '\x7f' then ['\\', 'x', '7', 'f']
  else if 0x80 ≤ c.toNat ∧ c.toNat ≤ 0x9F then
    ['\\', 'u', '\x7b'] ++ Quoted.hexDigits c.toNat ++ ['\x7d']
  else [c]

/-- The compact line of an event, without its time: the level, right-aligned, the message,
the target in quotes, and the span if there is one. -/
def Event.compact (e : Event) : String :=
  let level := String.ofList (List.replicate (5 - e.level.name.length) ' ') ++ e.level.name
  let message := String.ofList (e.message.toList.flatMap escapeControl)
  let span := match e.span with
    | none => ""
    | some id => " span_id=" ++ toString id
  level ++ " " ++ message ++ " log_target=" ++ quoteText e.target ++ span

def Event.written (e : Event) : Layout -> Written
  | .compact => .line e.compact
  | .json => .object e

end Log
end CompileOnLoad
