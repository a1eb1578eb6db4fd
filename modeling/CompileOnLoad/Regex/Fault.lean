import CompileOnLoad.Text.Lines

/-!
# Faults of regular expressions

A fault of a written expression has a cause and the stretch of the expression that shows it;
some have a second stretch, where the first of two conflicting parts stands.  The message of
a fault repeats the expression and marks the stretches in it.
-/

namespace CompileOnLoad
namespace Regex

/-- A stretch of a written expression, by the numbers of characters before its start and its
end. -/
structure Span where
  start : Nat
  stop : Nat
  deriving DecidableEq, Repr

namespace Span

def precedes (a b : Span) : Bool :=
  a.start < b.start || (a.start = b.start && a.stop ≤ b.stop)

end Span

inductive Cause where
  | classEscapeInvalid
  | classRangeInvalid
  | classRangeLiteral
  | classUnclosed
  | decimalInvalid
  | escapeHexEmpty
  | escapeHexInvalid
  | escapeHexInvalidDigit
  | escapeUnexpectedEnd
  | escapeUnrecognized
  | flagDanglingNegation
  | flagDuplicate
  | flagRepeatedNegation
  | flagUnexpectedEnd
  | flagUnrecognized
  | groupNameDuplicate
  | groupNameEmpty
  | groupNameInvalid
  | groupNameUnexpectedEnd
  | groupUnclosed
  | groupUnopened
  | nestLimitExceeded
  | repetitionCountInvalid
  | repetitionCountEmpty
  | repetitionCountUnclosed
  | repetitionMissing
  | propertyClassInvalid
  | wordBoundaryUnclosed
  | wordBoundaryUnrecognized
  | wordBoundaryOrCountUnexpectedEnd
  | backreference
  | lookAround
  | propertyNotAllowed
  | matchesInvalidText
  | propertyNotFound
  | propertyValueNotFound
  deriving DecidableEq, Repr

/-- How deeply groups, repetitions, classes and lists of alternatives may nest. -/
def nestLimit : Nat := 250

namespace Cause

def message : Cause -> String
  | classEscapeInvalid => "invalid escape sequence found in character class"
  | classRangeInvalid => "invalid character class range, the start must be <= the end"
  | classRangeLiteral => "invalid range boundary, must be a literal"
  | classUnclosed => "unclosed character class"
  | decimalInvalid => "decimal literal invalid"
  | escapeHexEmpty => "hexadecimal literal empty"
  | escapeHexInvalid => "hexadecimal literal is not a Unicode scalar value"
  | escapeHexInvalidDigit => "invalid hexadecimal digit"
  | escapeUnexpectedEnd => "incomplete escape sequence, reached end of pattern prematurely"
  | escapeUnrecognized => "unrecognized escape sequence"
  | flagDanglingNegation => "dangling flag negation operator"
  | flagDuplicate => "duplicate flag"
  | flagRepeatedNegation => "flag negation operator repeated"
  | flagUnexpectedEnd => "expected flag but got end of regex"
  | flagUnrecognized => "unrecognized flag"
  | groupNameDuplicate => "duplicate capture group name"
  | groupNameEmpty => "empty capture group name"
  | groupNameInvalid => "invalid capture group character"
  | groupNameUnexpectedEnd => "unclosed capture group name"
  | groupUnclosed => "unclosed group"
  | groupUnopened => "unopened group"
  | nestLimitExceeded =>
    "exceed the maximum number of nested parentheses/brackets (" ++ toString nestLimit ++ ")"
  | repetitionCountInvalid =>
    "invalid repetition count range, the start must be <= the end"
  | repetitionCountEmpty => "repetition quantifier expects a valid decimal"
  | repetitionCountUnclosed => "unclosed counted repetition"
  | repetitionMissing => "repetition operator missing expression"
  | propertyClassInvalid => "invalid Unicode character class"
  | wordBoundaryUnclosed =>
    "special word boundary assertion is either unclosed or contains an invalid character"
  | wordBoundaryUnrecognized =>
    "unrecognized special word boundary assertion, valid choices are: " ++
      "start, end, start-half or end-half"
  | wordBoundaryOrCountUnexpectedEnd =>
    "found either the beginning of a special word boundary or a bounded repetition on a " ++
      "\\b with an opening brace, but no closing brace"
  | backreference => "backreferences are not supported"
  | lookAround => "look-around, including look-ahead and look-behind, is not supported"
  | propertyNotAllowed => "Unicode not allowed here"
  | matchesInvalidText => "pattern can match invalid UTF-8"
  | propertyNotFound => "Unicode property not found"
  | propertyValueNotFound => "Unicode property value not found"

end Cause

/-- A fault at a stretch of an expression; `first` is where the part stands that it
conflicts with. -/
structure Fault where
  cause : Cause
  span : Span
  first : Option Span := none
  deriving DecidableEq, Repr

/-!
# Messages
-/

structure LineColumn where
  line : Nat
  column : Nat
  deriving DecidableEq, Repr

def lineColumn : Nat -> List Char -> LineColumn -> LineColumn
  | 0, _, at_ => at_
  | _, [], at_ => at_
  | n + 1, c :: rest, at_ =>
    lineColumn n rest (if c = '\n' then ⟨at_.line + 1, 1⟩ else ⟨at_.line, at_.column + 1⟩)

structure Extent where
  start : LineColumn
  stop : LineColumn
  deriving DecidableEq, Repr

def Span.extent (span : Span) (source : List Char) : Extent :=
  ⟨lineColumn span.start source ⟨1, 1⟩, lineColumn span.stop source ⟨1, 1⟩⟩

namespace Fault

def spans (fault : Fault) : List Span :=
  match fault.first with
  | none => [fault.span]
  | some other =>
    if other.precedes fault.span then [other, fault.span] else [fault.span, other]

/-- The marks under a line: carets under each stretch, at least one. -/
def marks (extents : List Extent) : List Char :=
  let place (drawn : List Char) (e : Extent) : List Char :=
    drawn ++ List.replicate (e.start.column - 1 - drawn.length) ' ' ++
      List.replicate (max 1 (e.stop.column - e.start.column)) '^'
  extents.foldl place []

/-- The lines of a message that show the expression, each with the marks below it; `width`
is the width of the line numbers, and nothing is numbered if it is zero. -/
def notated (width : Nat) (extents : List Extent) (lines : List (List Char)) :
    List (List Char) :=
  lines.zipIdx.flatMap fun (line, i) =>
    let number := (toString (i + 1)).toList
    let head := if width = 0 then List.replicate 4 ' '
      else List.replicate (width - number.length) ' ' ++ number ++ [':', ' ']
    let here := extents.filter fun e => e.start.line = i + 1
    let below := if here = [] then []
      else [List.replicate (if width = 0 then 4 else width + 2) ' ' ++ marks here]
    (head ++ line) :: below

def message (fault : Fault) (source : String) : String :=
  let cs := source.toList
  let lines := linesOf cs
  let count := lines.length + (if cs.getLast? = some '\n' then 1 else 0)
  let width := if count ≤ 1 then 0 else (toString count).length
  let extents := fault.spans.map (Span.extent · cs)
  let (short, long) := extents.partition fun e => e.start.line = e.stop.line
  let shown := (notated width short lines).map fun l => String.ofList l ++ "\n"
  let divider :=
    if cs.contains '\n' then String.ofList (List.replicate 79 '~') ++ "\n" else ""
  let notes := if cs.contains '\n' then
      long.map fun e =>
        "on line " ++ toString e.start.line ++ " (column " ++ toString e.start.column ++
          ") through line " ++ toString e.stop.line ++ " (column " ++
          toString (e.stop.column - 1) ++ ")\n"
    else []
  "regex parse error:\n" ++ divider ++ String.join shown ++ divider ++ String.join notes ++
    "error: " ++ fault.cause.message

end Fault
end Regex
end CompileOnLoad
