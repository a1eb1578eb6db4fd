import CompileOnLoad.Regex.Class

/-!
# Reading expressions

An expression is read item by item.  Groups that are open form a stack: each keeps what was
read before it, and whether blanks were ignored there.
-/

namespace CompileOnLoad
namespace Regex

open Parse

/-- What has been read of a list of alternatives: the parts of the current one and the
alternatives before it, both last first, and where the current one and the first one begin. -/
structure Branches where
  start : Nat
  firstStart : Nat
  parts : List Tree := []
  earlier : List Tree := []
  deriving Repr

namespace Branches

def beginAt (start : Nat) : Branches := { start, firstStart := start }

def push (b : Branches) (part : Tree) : Branches :=
  { b with parts := part :: b.parts }

def current (b : Branches) (stop : Nat) : Tree :=
  Tree.ofParts ⟨b.start, stop⟩ b.parts.reverse

/-- Ends the current alternative at `stop`; the next one begins behind the bar. -/
def split (b : Branches) (stop : Nat) : Branches :=
  { b with start := stop + 1, parts := [], earlier := b.current stop :: b.earlier }

def tree (b : Branches) (stop : Nat) : Tree :=
  if b.earlier.isEmpty then b.current stop
  else .alternation ⟨b.firstStart, stop⟩ (b.current stop :: b.earlier).reverse

end Branches

/-- An open group: where it starts, what it is, and what is around it. -/
structure OpenGroup where
  start : Nat
  isCapture : Bool
  flags : List FlagItem
  outer : Branches
  ignoredSpace : Bool
  deriving Repr

inductive GroupHead where
  | flags (span : Span) (items : List FlagItem)
  | group (isCapture : Bool) (items : List FlagItem)
  deriving Repr

def Flag.ofChar? (c : Char) : Option Flag :=
  if c = 'i' then some .ignoreCase
  else if c = 'm' then some .multiLine
  else if c = 's' then some .dotMatchesNewLine
  else if c = 'U' then some .swapGreed
  else if c = 'u' then some .unicode
  else if c = 'R' then some .carriageReturn
  else if c = 'x' then some .ignoreSpace
  else none

/-- Reads flags up to a colon or a closing parenthesis; the items that have been read come
last first. -/
def flagItems : Nat -> List (FlagItem × Span) -> Parse (List FlagItem)
  | 0, _ => failHere .flagUnexpectedEnd
  | fuel + 1, items => do
    let span := (← get).charSpan
    let add (item : FlagItem) (repeated : Cause) : Parse (List FlagItem) := do
      match items.lookup item with
      | some first => fail repeated span (some first)
      | none =>
        advance
        if (← get).atEnd then failHere .flagUnexpectedEnd
        flagItems fuel ((item, span) :: items)
    match ← char? with
    | some ':' | some ')' =>
      match items with
      | (.negation, last) :: _ => fail .flagDanglingNegation last
      | _ => return (items.map (·.1)).reverse
    | some '-' => add .negation .flagRepeatedNegation
    | some c =>
      match Flag.ofChar? c with
      | some f => add (.flag f) .flagDuplicate
      | none => fail .flagUnrecognized span
    | none => failHere .flagUnexpectedEnd

/-- Characters of group names: letters, digits, underscores, dots and brackets, of which
only letters and underscores come first. -/
def isNameChar (isFirst : Bool) (c : Char) : Bool :=
  let isLetter := (Unicode.Table.unionOf Unicode.binaryProperties ["alpha"]).contains c
  let isNumber :=
    (Unicode.Table.unionOf Unicode.generalCategories ["nd", "nl", "no"]).contains c
  c = '_' || isLetter || (!isFirst && (isNumber || c = '.' || c = '[' || c = ']'))

def nameChars : Nat -> Bool -> Parse (List Char)
  | 0, _ => return []
  | fuel + 1, isFirst => do
    match ← char? with
    | none => return []
    | some '>' => return []
    | some c =>
      if isNameChar isFirst c then
        advance
        return c :: (← nameChars fuel false)
      else failChar .groupNameInvalid

def groupName : Parse Unit := do
  let start ← position
  let name ← nameChars ((← get).rest.length + 1) true
  if (← get).atEnd then failHere .groupNameUnexpectedEnd
  let span : Span := ⟨start, ← position⟩
  advance
  if name.isEmpty then fail .groupNameEmpty ⟨start, start⟩
  match (← get).names.lookup name with
  | some first => fail .groupNameDuplicate span (some first)
  | none => modify fun c => { c with names := (name, span) :: c.names }

def groupHead : Parse GroupHead := do
  let start ← position
  let paren := (← get).charSpan
  next
  for look in ["?=", "?!", "?<=", "?<!"] do
    if ← take? look.toList then failFrom .lookAround start
  let inner := (← get).here
  if (← take? ['?', 'P', '<']) || (← take? ['?', '<']) then
    groupName
    return .group true []
  else if ← take? ['?'] then
    if (← get).atEnd then fail .groupUnclosed paren
    let items ← flagItems ((← get).rest.length + 1) []
    let closes := (← char?) = some ')'
    advance
    if closes then
      if items.isEmpty then fail .repetitionMissing inner
      return .flags ⟨start, ← position⟩ items
    else return .group false items
  else return .group true []

def repeatable (b : Branches) : Parse (Tree × Branches) := do
  match b.parts with
  | [] => failHere .repetitionMissing
  | .empty _ :: _ => failHere .repetitionMissing
  | .flags _ _ :: _ => failHere .repetitionMissing
  | part :: others => return (part, { b with parts := others })

def shortRepetition (b : Branches) (least : Nat) (most : Option Nat) : Parse Branches := do
  let (part, b) ← repeatable b
  advance
  if (← char?) = some '?' then advance
  return b.push (.repetition ⟨part.span.start, ← position⟩ least most part)

def decimalDigits : Nat -> Parse (List Nat)
  | 0 => return []
  | fuel + 1 => do
    match ← char? with
    | some c =>
      if c.isDigit then
        next
        return (c.toNat - 48) :: (← decimalDigits fuel)
      else return []
    | none => return []

def skipBlanks : Parse Unit :=
  modify fun c => c.advance (c.rest.takeWhile isBlank).length

/-- Moves over blanks and what is ignored after each; `fuel` bounds their number. -/
def skipBlanksAndIgnored : Nat -> Parse Unit
  | 0 => return ()
  | fuel + 1 => do
    if (← char?).any isBlank then
      next
      skipBlanksAndIgnored fuel

def greatestCount : Nat := 0xFFFFFFFF

/-- Reads a count with blanks around it.  A fault is given back and not raised, because
other faults may come before it. -/
def decimal : Parse (Except Fault Nat) := do
  skipBlanks
  let start ← position
  let digits ← decimalDigits (← get).rest.length
  let span : Span := ⟨start, ← position⟩
  skipBlanksAndIgnored (← get).rest.length
  let value := digits.foldl (fun n d => n * 10 + d) 0
  if digits.isEmpty then return .error ⟨.repetitionCountEmpty, span, none⟩
  else if greatestCount < value then return .error ⟨.decimalInvalid, span, none⟩
  else return .ok value

def countedRepetition (b : Branches) : Parse Branches := do
  let start ← position
  let (part, b) ← repeatable b
  next
  if (← get).atEnd then failFrom .repetitionCountUnclosed start
  let least ← decimal
  if (← get).atEnd then failFrom .repetitionCountUnclosed start
  let mut range : Nat × Option Nat := (0, none)
  if (← char?) = some ',' then
    next
    if (← get).atEnd then failFrom .repetitionCountUnclosed start
    if (← char?) ≠ some '\x7d' then
      let low ← least
      let high ← (← decimal)
      range := (low, some high)
    else
      range := (← least, none)
  else
    let count ← least
    range := (count, some count)
  if (← char?) ≠ some '\x7d' then failFrom .repetitionCountUnclosed start
  next
  if (← char?) = some '?' then advance
  let (low, high?) := range
  if high?.any (· < low) then failFrom .repetitionCountInvalid start
  return b.push (.repetition ⟨part.span.start, ← position⟩ low high? part)

def treeLoop : Nat -> List OpenGroup -> Branches -> Parse Tree
  | 0, _, b => return b.tree b.start
  | fuel + 1, stack, b => do
    modify Cursor.skipIgnored
    match ← char? with
    | none =>
      match stack with
      | [] => return b.tree (← position)
      | g :: _ => fail .groupUnclosed ⟨g.start, g.start + 1⟩
    | some '(' =>
      let start ← position
      match ← groupHead with
      | .flags span items =>
        modify fun c =>
          { c with ignoresSpace := (flagValue? .ignoreSpace false items).getD c.ignoresSpace }
        treeLoop fuel stack (b.push (.flags span items))
      | .group isCapture items =>
        let ignoredSpace := (← get).ignoresSpace
        modify fun c =>
          { c with ignoresSpace := (flagValue? .ignoreSpace false items).getD ignoredSpace }
        treeLoop fuel (⟨start, isCapture, items, b, ignoredSpace⟩ :: stack)
          (Branches.beginAt (← position))
    | some ')' =>
      match stack with
      | [] => failChar .groupUnopened
      | g :: outer =>
        let body := b.tree (← position)
        modify fun c => { c with ignoresSpace := g.ignoredSpace }
        advance
        treeLoop fuel outer
          (g.outer.push (.group ⟨g.start, ← position⟩ g.isCapture g.flags body))
    | some '|' =>
      let stop ← position
      advance
      treeLoop fuel stack (b.split stop)
    | some '[' => treeLoop fuel stack (b.push (← bracketedClass))
    | some '?' => treeLoop fuel stack (← shortRepetition b 0 (some 1))
    | some '*' => treeLoop fuel stack (← shortRepetition b 0 none)
    | some '+' => treeLoop fuel stack (← shortRepetition b 1 none)
    | some '\x7b' => treeLoop fuel stack (← countedRepetition b)
    | some _ => treeLoop fuel stack (b.push (← primitive).tree)

def parse (source : List Char) : Except Fault Tree := do
  let (tree, _) ←
    (treeLoop (source.length + 1) [] (Branches.beginAt 0)).run { rest := source }
  match tree.tooDeep 0 with
  | some span => .error ⟨.nestLimitExceeded, span, none⟩
  | none => .ok tree

end Regex
end CompileOnLoad
