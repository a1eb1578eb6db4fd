/-!
# Log levels
-/

namespace CompileOnLoad
namespace Log

inductive Level where
  | trace
  | debug
  | info
  | warn
  | error
  deriving DecidableEq, Repr, Inhabited

namespace Level

def rank : Level -> Nat
  | trace => 0
  | debug => 1
  | info => 2
  | warn => 3
  | error => 4

def ofRank? : Nat -> Option Level
  | 0 => some trace
  | 1 => some debug
  | 2 => some info
  | 3 => some warn
  | 4 => some error
  | _ => none

def passes (level minimum : Level) : Bool :=
  minimum.rank ≤ level.rank

def name : Level -> String
  | trace => "TRACE"
  | debug => "DEBUG"
  | info => "INFO"
  | warn => "WARN"
  | error => "ERROR"

def label : Level -> String
  | trace => "Trace"
  | debug => "Debug"
  | info => "Info"
  | warn => "Warn"
  | error => "Error"

def parse? (s : String) : Option Level :=
  let word := String.ofList (s.toList.map Char.toLower)
  if word = "trace" then some trace
  else if word = "debug" then some debug
  else if word = "info" then some info
  else if word = "warn" ∨ word = "warning" then some warn
  else if word = "error" ∨ word = "silent" then some error
  else none

theorem ofRank?_rank (level : Level) : ofRank? level.rank = some level := by
  cases level <;> rfl

end Level
end Log
end CompileOnLoad
