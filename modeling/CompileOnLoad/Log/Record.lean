import CompileOnLoad.Log.Level

/-!
# Log records

A record is written on one line: the time of day, the level, the target, the span if there
is one, and the message.
-/

namespace CompileOnLoad
namespace Log

/-- One log record; the time is in milliseconds since the epoch. -/
structure Record where
  time : UInt64
  level : Level
  target : String
  span : Option Nat
  message : String
  deriving DecidableEq, Repr

def twoDigits (n : Nat) : List Char :=
  [Nat.digitChar (n / 10 % 10), Nat.digitChar (n % 10)]

def threeDigits (n : Nat) : List Char :=
  Nat.digitChar (n / 100 % 10) :: twoDigits n

def clock (time : UInt64) : List Char :=
  let seconds := time.toNat / 1000
  twoDigits (seconds / 3600 % 24) ++ ':' :: twoDigits (seconds / 60 % 60) ++
    ':' :: twoDigits (seconds % 60) ++ '.' :: threeDigits (time.toNat % 1000)

def spanMark : Option Nat -> String
  | none => ""
  | some id => " [span=" ++ toString id ++ "]"

def Record.body (r : Record) : String :=
  r.level.name ++ " " ++ r.target ++ spanMark r.span ++ ": " ++ r.message

def Record.line (r : Record) : String :=
  "[" ++ String.ofList (clock r.time) ++ "] " ++ r.body

end Log
end CompileOnLoad
