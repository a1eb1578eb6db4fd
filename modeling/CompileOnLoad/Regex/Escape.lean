import CompileOnLoad.Regex.Cursor

/-!
# Escapes

A backslash gives a character, an assertion or a class.
-/

namespace CompileOnLoad
namespace Regex

open Parse

/-- A part of an expression that is written without brackets or operators. -/
inductive Primitive where
  | literal (literal : Literal)
  | dot (span : Span)
  | assertion (span : Span) (kind : Assertion)
  | property (span : Span) (negated : Bool) (query : PropertyQuery)
  | letter (span : Span) (negated : Bool) (kind : LetterClass)
  deriving Repr

namespace Primitive

def span : Primitive -> Span
  | literal l => l.span
  | dot span | assertion span _ | property span _ _ | letter span _ _ => span

def tree : Primitive -> Tree
  | literal l => .literal l
  | dot span => .dot span
  | assertion span kind => .assertion span kind
  | property span negated query => .property span negated query
  | letter span negated kind => .letter span negated kind

end Primitive

/-- ASCII characters that a backslash makes ordinary: all but letters, digits, `<` and `>`. -/
def isEscapable (c : Char) : Bool :=
  c.toNat < 128 && !c.isAlphanum && c ≠ '<' && c ≠ '>'

def hexDigit? (c : Char) : Option Nat :=
  if '0' ≤ c ∧ c ≤ '9' then some (c.toNat - 48)
  else if 'a' ≤ c ∧ c ≤ 'f' then some (c.toNat - 87)
  else if 'A' ≤ c ∧ c ≤ 'F' then some (c.toNat - 55)
  else none

def hexValue (digits : List Nat) : Nat :=
  digits.foldl (fun n d => n * 16 + d) 0

def scalar? (n : Nat) : Option Char :=
  if h : n.isValidChar then some (Char.ofNatAux n h) else none

def hexDigits : Nat -> Bool -> Parse (List Nat)
  | 0, _ => return []
  | n + 1, isFirst => do
    if !isFirst then
      next
      if (← get).atEnd then failHere .escapeUnexpectedEnd
    match (← char?).bind hexDigit? with
    | none => failChar .escapeHexInvalidDigit
    | some d => return d :: (← hexDigits n false)

def bracedHexDigits : Nat -> Parse (List Nat)
  | 0 => return []
  | fuel + 1 => do
    next
    match ← char? with
    | none => return []
    | some '\x7d' => return []
    | some c =>
      match hexDigit? c with
      | none => failChar .escapeHexInvalidDigit
      | some d => return d :: (← bracedHexDigits fuel)

/-- Reads a hexadecimal escape after its letter; `length` is the number of digits without
braces. -/
def hexEscape (start length : Nat) : Parse Literal := do
  next
  match ← char? with
  | none => failHere .escapeUnexpectedEnd
  | some '\x7b' =>
    let brace ← position
    let digits ← bracedHexDigits (← get).rest.length
    if (← get).atEnd then failFrom .escapeUnexpectedEnd brace
    let stop ← position
    next
    if digits.isEmpty then failFrom .escapeHexEmpty brace
    match scalar? (hexValue digits) with
    | none => fail .escapeHexInvalid ⟨brace + 1, stop⟩
    | some c => return ⟨⟨start, ← position⟩, c, false⟩
  | some _ =>
    let first ← position
    let digits ← hexDigits length true
    next
    match scalar? (hexValue digits) with
    | none => failFrom .escapeHexInvalid first
    | some c => return ⟨⟨start, ← position⟩, c, length = 2⟩

def upToBrace : Nat -> Parse (List Char)
  | 0 => return []
  | fuel + 1 => do
    next
    match ← char? with
    | none => return []
    | some '\x7d' => return []
    | some c => return c :: (← upToBrace fuel)

/-- The parts of a text before and after the first place where a separator stands. -/
def splitAt? (separator : List Char) : List Char -> Option (List Char × List Char)
  | [] => none
  | c :: rest =>
    if separator.isPrefixOf (c :: rest) then some ([], (c :: rest).drop separator.length)
    else (splitAt? separator rest).map fun (before, after) => (c :: before, after)

/-- The question that a name in braces asks: the name of a value may follow that of its
property. -/
def PropertyQuery.ofName (name : List Char) : PropertyQuery :=
  let split? := (splitAt? ['!', '='] name).or ((splitAt? [':'] name).or (splitAt? ['='] name))
  match split? with
  | some (property, value) => .valued (String.ofList property) (String.ofList value)
  | none => .named (String.ofList name)

def propertyEscape (start : Nat) (negated : Bool) : Parse Primitive := do
  next
  match ← char? with
  | none => failHere .escapeUnexpectedEnd
  | some '\x7b' =>
    let name ← upToBrace (← get).rest.length
    if (← get).atEnd then failHere .escapeUnexpectedEnd
    advance
    return .property ⟨start, ← position⟩ negated (PropertyQuery.ofName name)
  | some '\\' => failChar .propertyClassInvalid
  | some c =>
    next
    return .property ⟨start, ← position⟩ negated (.named (String.ofList [c]))

def isBoundaryChar (c : Char) : Bool :=
  c.isAlpha || c = '-'

def boundaryWord : Nat -> Parse (List Char)
  | 0 => return []
  | fuel + 1 => do
    match ← char? with
    | some c =>
      if isBoundaryChar c then
        next
        return c :: (← boundaryWord fuel)
      else return []
    | none => return []

def boundaryKind? (word : List Char) : Option Assertion :=
  if word = "start".toList then some .wordStart
  else if word = "end".toList then some .wordEnd
  else if word = "start-half".toList then some .wordStartHalf
  else if word = "end-half".toList then some .wordEndHalf
  else none

/-- Reads what may follow a word boundary: a word in braces, which tells its kind.  Braces
that hold anything else are left to be read as a count. -/
def boundaryEscape (start : Nat) : Parse Primitive := do
  let plain : Primitive := .assertion ⟨start, ← position⟩ .wordBoundary
  if (← char?) ≠ some '\x7b' then return plain
  let before ← get
  let brace ← position
  next
  if (← get).atEnd then failFrom .wordBoundaryOrCountUnexpectedEnd start
  let first ← position
  if !((← char?).any isBoundaryChar) then
    set before
    return plain
  let word ← boundaryWord (← get).rest.length
  if (← char?) ≠ some '\x7d' then failFrom .wordBoundaryUnclosed brace
  let stop ← position
  advance
  match boundaryKind? word with
  | some kind => return .assertion ⟨start, ← position⟩ kind
  | none => fail .wordBoundaryUnrecognized ⟨first, stop⟩

def namedChar? (c : Char) : Option Char :=
  if c = 'a' then some '\x07'
  else if c = 'f' then some '\x0c'
  else if c = 't' then some '\t'
  else if c = 'n' then some '\n'
  else if c = 'r' then some '\r'
  else if c = 'v' then some '\x0b'
  else none

def letterClass? (c : Char) : Option (Bool × LetterClass) :=
  if c = 'd' then some (false, .digit)
  else if c = 's' then some (false, .space)
  else if c = 'w' then some (false, .word)
  else if c = 'D' then some (true, .digit)
  else if c = 'S' then some (true, .space)
  else if c = 'W' then some (true, .word)
  else none

def letterAssertion? (c : Char) : Option Assertion :=
  if c = 'A' then some .textStart
  else if c = 'z' then some .textEnd
  else if c = 'B' then some .notWordBoundary
  else if c = '<' then some .wordStart
  else if c = '>' then some .wordEnd
  else none

def escape : Parse Primitive := do
  let start ← position
  advance
  match ← char? with
  | none => failFrom .escapeUnexpectedEnd start
  | some c =>
    if c.isDigit then fail .backreference ⟨start, start + 2⟩
    else if c = 'x' then return .literal (← hexEscape start 2)
    else if c = 'u' then return .literal (← hexEscape start 4)
    else if c = 'U' then return .literal (← hexEscape start 8)
    else if c = 'p' then propertyEscape start false
    else if c = 'P' then propertyEscape start true
    else
      advance
      let span : Span := ⟨start, start + 2⟩
      if isEscapable c then return .literal ⟨span, c, false⟩
      else if c = 'b' then boundaryEscape start
      else
        match namedChar? c, letterClass? c, letterAssertion? c with
        | some named, _, _ => return .literal ⟨span, named, false⟩
        | none, some (negated, kind), _ => return .letter span negated kind
        | none, none, some kind => return .assertion span kind
        | none, none, none => fail .escapeUnrecognized span

def primitive : Parse Primitive := do
  let span := (← get).charSpan
  match ← char? with
  | some '\\' => escape
  | some '.' => do advance; return .dot span
  | some '^' => do advance; return .assertion span .lineStart
  | some '$' => do advance; return .assertion span .lineEnd
  | some c => do advance; return .literal ⟨span, c, false⟩
  | none => failHere .escapeUnexpectedEnd

end Regex
end CompileOnLoad
