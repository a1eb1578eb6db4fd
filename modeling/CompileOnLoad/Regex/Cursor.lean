import CompileOnLoad.Regex.Tree
import CompileOnLoad.Unicode.Property

/-!
# Reading a written expression from left to right

A cursor stands before a character of the expression.  Where blanks are ignored, they and
comments can be passed over together with the character before them.
-/

namespace CompileOnLoad
namespace Regex

def isBlank (c : Char) : Bool :=
  Unicode.spaceChars.contains c

/-- A place in a written expression, with what is left of it, and what reading has found
out: whether blanks are ignored, and the names of groups. -/
structure Cursor where
  rest : List Char
  position : Nat := 0
  ignoresSpace : Bool := false
  names : List (List Char × Span) := []
  deriving Repr

namespace Cursor

def atEnd (c : Cursor) : Bool := c.rest.isEmpty

def advance (c : Cursor) (n : Nat) : Cursor :=
  { c with rest := c.rest.drop n, position := c.position + min n c.rest.length }

/-- The number of characters that are blanks or belong to comments; a comment ends after a
line feed. -/
def blanks : Bool -> List Char -> Nat
  | _, [] => 0
  | true, c :: rest => blanks (c ≠ '\n') rest + 1
  | false, c :: rest =>
    if isBlank c then blanks false rest + 1
    else if c = '#' then blanks true rest + 1
    else 0

def skipIgnored (c : Cursor) : Cursor :=
  if c.ignoresSpace then c.advance (blanks false c.rest) else c

def next (c : Cursor) : Cursor := (c.advance 1).skipIgnored

def charSpan (c : Cursor) : Span :=
  ⟨c.position, c.position + min 1 c.rest.length⟩

def here (c : Cursor) : Span := ⟨c.position, c.position⟩

/-- The first of the given characters that is neither ignored as blank nor the start of a
comment. -/
def firstShown : Bool -> List Char -> Option Char
  | _, [] => none
  | inComment, c :: rest =>
    if isBlank c then firstShown inComment rest
    else if c = '#' ∧ !inComment then firstShown true rest
    else some c

def following (c : Cursor) : Option Char :=
  let behind := c.rest.drop 1
  if c.ignoresSpace then (firstShown false behind).or behind.head? else behind.head?

end Cursor

abbrev Parse := StateT Cursor (Except Fault)

namespace Parse

def fail {α : Type} (cause : Cause) (span : Span) (first : Option Span := none) : Parse α :=
  throw ⟨cause, span, first⟩

def char? : Parse (Option Char) := do
  return (← get).rest.head?

def position : Parse Nat := do
  return (← get).position

def advance : Parse Unit := modify (·.advance 1)

def next : Parse Unit := modify Cursor.next

def take? (text : List Char) : Parse Bool := do
  if text.isPrefixOf (← get).rest then
    modify (·.advance text.length)
    return true
  else return false

def failFrom {α : Type} (cause : Cause) (start : Nat) : Parse α := do
  fail cause ⟨start, ← position⟩

def failHere {α : Type} (cause : Cause) : Parse α := do
  fail cause (← get).here

def failChar {α : Type} (cause : Cause) : Parse α := do
  fail cause (← get).charSpan

end Parse
end Regex
end CompileOnLoad
