import CompileOnLoad.Regex.Escape

/-!
# Bracketed classes

Classes nest, and operations between them are read from left to right.  The classes that are
open form a stack; each waits for what follows the class inside it.
-/

namespace CompileOnLoad
namespace Regex

open Parse

/-- The items of a class that have been read, last first, and the place where they begin. -/
structure ClassItems where
  start : Nat
  items : List ClassTree := []
  deriving Repr

namespace ClassItems

def push (c : ClassItems) (item : ClassTree) : ClassItems :=
  { c with items := item :: c.items }

def tree (c : ClassItems) : ClassTree :=
  match c.items with
  | [] => .empty ⟨c.start, c.start⟩
  | [item] => item
  | last :: others =>
    let first := others.getLast?.getD last
    .union ⟨first.span.start, last.span.stop⟩ (c.items.reverse)

end ClassItems

/-- An open class: where it starts, up to where its beginning was read, whether it is
negated, the items before it in the class around it, and an operation that waits for its
right side. -/
structure OpenClass where
  span : Span
  negated : Bool
  outer : ClassItems
  pending : Option (ClassOperation × ClassTree) := none
  deriving Repr

def OpenClass.close (o : OpenClass) (right : ClassTree) : ClassTree :=
  match o.pending with
  | none => right
  | some (kind, left) => .operation ⟨left.span.start, right.span.stop⟩ kind left right

def AsciiClass.ofName? (name : List Char) : Option AsciiClass :=
  let named : List (String × AsciiClass) := [
    ("alnum", .alnum), ("alpha", .alpha), ("ascii", .ascii), ("blank", .blank),
    ("cntrl", .cntrl),
    ("digit", .digit), ("graph", .graph), ("lower", .lower), ("print", .print),
    ("punct", .punct),
    ("space", .space), ("upper", .upper), ("word", .word), ("xdigit", .xdigit)]
  named.lookup (String.ofList name)

/-- Reads a class with a name between `[:` and `:]`, if there is one at the cursor. -/
def asciiClass? : Parse (Option ClassTree) := do
  let before ← get
  let inner := before.rest.drop 1
  match inner with
  | ':' :: afterColon =>
    let negated := afterColon.head? = some '^'
    let named := if negated then afterColon.drop 1 else afterColon
    let name := named.takeWhile (· ≠ ':')
    let length := 2 + (if negated then 1 else 0) + name.length + 2
    if [':', ']'].isPrefixOf (named.drop name.length) then
      match AsciiClass.ofName? name with
      | some kind =>
        modify (·.advance length)
        return some (.ascii ⟨before.position, before.position + length⟩ negated kind)
      | none => return none
    else return none
  | _ => return none

def failUnclosed {α : Type} (stack : List OpenClass) : Parse α := do
  match stack with
  | o :: _ => fail .classUnclosed o.span
  | [] => failHere .classUnclosed

/-- Reads hyphens at the start of a class, where they are ordinary; `fuel` bounds their
number. -/
def leadingHyphens (start : Nat) : Nat -> ClassItems -> Parse ClassItems
  | 0, items => return items
  | fuel + 1, items => do
    if (← char?) = some '-' then
      let span := (← get).charSpan
      next
      if (← get).atEnd then fail .classUnclosed ⟨start, start⟩
      leadingHyphens start fuel (items.push (.literal ⟨span, '-', false⟩))
    else return items

/-- Reads the beginning of a class: the bracket, a negation, and the characters that are
ordinary because they come first. -/
def openClass (outer : ClassItems) : Parse (OpenClass × ClassItems) := do
  let start ← position
  next
  if (← get).atEnd then failFrom .classUnclosed start
  let negated := (← char?) = some '^'
  if negated then
    next
    if (← get).atEnd then failFrom .classUnclosed start
  let items ← leadingHyphens start (← get).rest.length { start := ← position }
  if items.items.isEmpty && (← char?) = some ']' then
    let span := (← get).charSpan
    next
    if (← get).atEnd then failFrom .classUnclosed start
    return (⟨⟨start, ← position⟩, negated, outer, none⟩,
      items.push (.literal ⟨span, ']', false⟩))
  else return (⟨⟨start, ← position⟩, negated, outer, none⟩, items)

def classPrimitive : Parse Primitive := do
  let span := (← get).charSpan
  match ← char? with
  | some '\\' => escape
  | some c => do advance; return .literal ⟨span, c, false⟩
  | none => failHere .classUnclosed

def Primitive.classItem (p : Primitive) : Parse ClassTree :=
  match p with
  | .literal l => return .literal l
  | .property span negated query => return .property span negated query
  | .letter span negated kind => return .letter span negated kind
  | _ => fail .classEscapeInvalid p.span

def Primitive.rangeEnd (p : Primitive) : Parse Literal :=
  match p with
  | .literal l => return l
  | _ => fail .classRangeLiteral p.span

def classItem (stack : List OpenClass) : Parse ClassTree := do
  let low ← classPrimitive
  modify Cursor.skipIgnored
  if (← get).atEnd then failUnclosed stack
  let after := (← get).following
  if (← char?) ≠ some '-' || after = some ']' || after = some '-' then low.classItem
  else
    next
    if (← get).atEnd then failUnclosed stack
    let high ← classPrimitive
    let span : Span := ⟨low.span.start, high.span.stop⟩
    let l ← low.rangeEnd
    let h ← high.rangeEnd
    if h.char < l.char then fail .classRangeInvalid span
    return .range span l h

def operationAt? (rest : List Char) : Option ClassOperation :=
  match rest with
  | '&' :: '&' :: _ => some .intersection
  | '-' :: '-' :: _ => some .difference
  | '~' :: '~' :: _ => some .symmetricDifference
  | _ => none

/-- Reads a class up to the bracket that closes the outermost one; `fuel` bounds the number
of items. -/
def classLoop : Nat -> List OpenClass -> ClassItems -> Parse Tree
  | 0, stack, _ => failUnclosed stack
  | fuel + 1, stack, items => do
    modify Cursor.skipIgnored
    match ← char?, operationAt? (← get).rest with
    | none, _ => failUnclosed stack
    | some '[', _ =>
      match ← (if stack.isEmpty then return none else asciiClass?) with
      | some item => classLoop fuel stack (items.push item)
      | none =>
        let (o, inner) ← openClass items
        classLoop fuel (o :: stack) inner
    | some ']', _ =>
      match stack with
      | [] => failUnclosed stack
      | o :: outer =>
        advance
        let span : Span := ⟨o.span.start, ← position⟩
        let inner := o.close items.tree
        if outer.isEmpty then return .bracketed span o.negated inner
        else classLoop fuel outer (o.outer.push (.bracketed span o.negated inner))
    | some _, some kind =>
      match stack with
      | [] => failUnclosed stack
      | o :: outer =>
        modify (·.advance 2)
        let left := o.close items.tree
        classLoop fuel ({ o with pending := some (kind, left) } :: outer)
          { start := ← position }
    | some _, none =>
      let item ← classItem stack
      classLoop fuel stack (items.push item)

def bracketedClass : Parse Tree := do
  let c ← get
  let (o, items) ← openClass { start := c.position }
  classLoop (c.rest.length + 1) [o] items

end Regex
end CompileOnLoad
