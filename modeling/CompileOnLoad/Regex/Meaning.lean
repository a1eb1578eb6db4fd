import CompileOnLoad.Regex.Expr
import CompileOnLoad.Regex.Tree

/-!
# The meaning of written expressions

Flags, names and classes of a written expression are resolved to sets of characters and
conditions.  A set that could match a part of a character only is a fault, and so is a
property where Unicode is switched off.
-/

namespace CompileOnLoad
namespace Regex

structure Flags where
  ignoreCase : Bool := false
  multiLine : Bool := false
  dotMatchesNewLine : Bool := false
  unicode : Bool := true
  carriageReturn : Bool := false
  deriving DecidableEq, Repr

def Flags.apply (flags : Flags) (items : List FlagItem) : Flags where
  ignoreCase := (flagValue? .ignoreCase false items).getD flags.ignoreCase
  multiLine := (flagValue? .multiLine false items).getD flags.multiLine
  dotMatchesNewLine :=
    (flagValue? .dotMatchesNewLine false items).getD flags.dotMatchesNewLine
  unicode := (flagValue? .unicode false items).getD flags.unicode
  carriageReturn := (flagValue? .carriageReturn false items).getD flags.carriageReturn

def AsciiClass.chars : AsciiClass -> CharSet
  | alnum => CharSet.ofRanges [(0x30, 0x39), (0x41, 0x5A), (0x61, 0x7A)]
  | alpha => CharSet.ofRanges [(0x41, 0x5A), (0x61, 0x7A)]
  | ascii => CharSet.range 0 0x7F
  | blank => CharSet.ofRanges [(0x09, 0x09), (0x20, 0x20)]
  | cntrl => CharSet.ofRanges [(0x00, 0x1F), (0x7F, 0x7F)]
  | digit => CharSet.range 0x30 0x39
  | graph => CharSet.range 0x21 0x7E
  | lower => CharSet.range 0x61 0x7A
  | print => CharSet.range 0x20 0x7E
  | punct => CharSet.ofRanges [(0x21, 0x2F), (0x3A, 0x40), (0x5B, 0x60), (0x7B, 0x7E)]
  | space => CharSet.ofRanges [(0x09, 0x0D), (0x20, 0x20)]
  | upper => CharSet.range 0x41 0x5A
  | word => CharSet.ofRanges [(0x30, 0x39), (0x41, 0x5A), (0x5F, 0x5F), (0x61, 0x7A)]
  | xdigit => CharSet.ofRanges [(0x30, 0x39), (0x41, 0x46), (0x61, 0x66)]

/-- The ASCII letters that differ from a member of the set in case only, joined to it. -/
def closeUnderAsciiCase (s : CharSet) : CharSet :=
  let letters := (List.range 26).filter fun k =>
    CharSet.isInside s.changes (0x41 + k) || CharSet.isInside s.changes (0x61 + k)
  s.union (CharSet.ofRanges (letters.flatMap fun k =>
    [(0x41 + k, 0x41 + k), (0x61 + k, 0x61 + k)]))

namespace Flags

def close (flags : Flags) (s : CharSet) : CharSet :=
  if flags.ignoreCase then
    if flags.unicode then Unicode.closeUnderCase s else closeUnderAsciiCase s
  else s

/-- The set or what is outside of it.  Where Unicode is switched off, what is outside are
bytes, which need not be characters. -/
def orNegated (flags : Flags) (span : Span) (negated : Bool) (s : CharSet) :
    Except Fault CharSet :=
  if !negated then .ok s
  else if flags.unicode then .ok s.compl
  else
    let inside := (CharSet.range 0 0xFF).diff s
    if (inside.diff (CharSet.range 0 0x7F)).isEmpty then .ok inside
    else .error ⟨.matchesInvalidText, span, none⟩

def closedOrNegated (flags : Flags) (span : Span) (negated : Bool) (s : CharSet) :
    Except Fault CharSet :=
  flags.orNegated span negated (flags.close s)

def words (flags : Flags) : CharSet :=
  if flags.unicode then Unicode.wordChars else AsciiClass.word.chars

end Flags

def LetterClass.chars (flags : Flags) : LetterClass -> CharSet
  | digit => if flags.unicode then Unicode.digitChars else AsciiClass.digit.chars
  | space => if flags.unicode then Unicode.spaceChars else AsciiClass.space.chars
  | word => flags.words

def PropertyQuery.resolve (flags : Flags) (span : Span) (negated : Bool)
    (query : PropertyQuery) : Except Fault CharSet :=
  if !flags.unicode then .error ⟨.propertyNotAllowed, span, none⟩
  else
    let answer := match query with
      | .named name => Unicode.charsNamed name
      | .valued property value => Unicode.charsWithValue property value
    match answer with
    | .ok s => flags.closedOrNegated span negated s
    | .error .unknownProperty => .error ⟨.propertyNotFound, span, none⟩
    | .error .unknownValue => .error ⟨.propertyValueNotFound, span, none⟩

/-- A literal where Unicode may be switched off: a byte that is no ASCII character is no
text. -/
def Literal.resolve (flags : Flags) (l : Literal) : Except Fault Char :=
  if !flags.unicode && l.isByte && 0x7F < l.char.toNat then
    .error ⟨.matchesInvalidText, l.span, none⟩
  else .ok l.char

/-- A literal in a class, which holds ASCII characters only where Unicode is switched off. -/
def Literal.resolveInClass (flags : Flags) (l : Literal) : Except Fault Char := do
  let c ← l.resolve flags
  if !flags.unicode && 0x7F < c.toNat then .error ⟨.propertyNotAllowed, l.span, none⟩
  else .ok c

def ClassOperation.apply : ClassOperation -> CharSet -> CharSet -> CharSet
  | intersection => CharSet.inter
  | difference => CharSet.diff
  | symmetricDifference => CharSet.symmDiff

mutual

def ClassTree.resolve (flags : Flags) : ClassTree -> Except Fault CharSet
  | .empty _ => .ok CharSet.empty
  | .literal l => do .ok (CharSet.single (← l.resolveInClass flags))
  | .range _ low high => do
    let l ← low.resolveInClass flags
    let h ← high.resolveInClass flags
    .ok (CharSet.range l.toNat h.toNat)
  | .ascii span negated kind => flags.closedOrNegated span negated kind.chars
  | .property span negated query => query.resolve flags span negated
  | .letter span negated kind => flags.orNegated span negated (kind.chars flags)
  | .bracketed span negated inner => do
    flags.closedOrNegated span negated (← inner.resolve flags)
  | .union _ items => resolveClasses flags items
  | .operation _ kind left right => do
    let l ← left.resolve flags
    let r ← right.resolve flags
    .ok (kind.apply (flags.close l) (flags.close r))

def resolveClasses (flags : Flags) : List ClassTree -> Except Fault CharSet
  | [] => .ok CharSet.empty
  | item :: rest => do
    let s ← item.resolve flags
    .ok (s.union (← resolveClasses flags rest))

end

def Assertion.condition (flags : Flags) : Assertion -> Condition
  | lineStart =>
    if !flags.multiLine then .textStart
    else if flags.carriageReturn then .anyLineStart else .lineStart
  | lineEnd =>
    if !flags.multiLine then .textEnd
    else if flags.carriageReturn then .anyLineEnd else .lineEnd
  | textStart => .textStart
  | textEnd => .textEnd
  | wordBoundary => .boundary flags.words
  | notWordBoundary => .notBoundary flags.words
  | wordStart => .wordStart flags.words
  | wordEnd => .wordEnd flags.words
  | wordStartHalf => .wordStartHalf flags.words
  | wordEndHalf => .wordEndHalf flags.words

def Flags.dot (flags : Flags) (span : Span) : Except Fault CharSet :=
  if !flags.unicode then .error ⟨.matchesInvalidText, span, none⟩
  else if flags.dotMatchesNewLine then .ok CharSet.all
  else if flags.carriageReturn then
    .ok (CharSet.all.diff ((CharSet.single '\n').union (CharSet.single '\r')))
  else .ok (CharSet.single '\n').compl

mutual

/-- The expression that a written expression stands for, and the flags that hold after it. -/
def Tree.resolve (flags : Flags) : Tree -> Except Fault (Expr × Flags)
  | .empty _ => .ok (.empty, flags)
  | .flags _ items => .ok (.empty, flags.apply items)
  | .literal l => do
    .ok (.chars (flags.close (CharSet.single (← l.resolve flags))), flags)
  | .dot span => do .ok (.chars (← flags.dot span), flags)
  | .assertion _ kind => .ok (.condition (kind.condition flags), flags)
  | .property span negated query => do
    .ok (.chars (← query.resolve flags span negated), flags)
  | .letter span negated kind => do
    .ok (.chars (← flags.orNegated span negated (kind.chars flags)), flags)
  | .bracketed span negated inner => do
    .ok (.chars (← flags.closedOrNegated span negated (← inner.resolve flags)), flags)
  | .repetition _ least most body => do
    let (e, flags) ← body.resolve flags
    .ok (.repetition e least most, flags)
  | .group _ isCapture items body => do
    let (e, _) ← body.resolve (flags.apply items)
    .ok (if isCapture then .capture e else e, flags)
  | .alternation _ branches => resolveBranches flags branches
  | .concat _ parts => resolveParts flags parts

def resolveBranches (flags : Flags) : List Tree -> Except Fault (Expr × Flags)
  | [] => .ok (.empty, flags)
  | [branch] => branch.resolve flags
  | branch :: rest => do
    let (e, flags) ← branch.resolve flags
    let (others, flags) ← resolveBranches flags rest
    .ok (.alt e others, flags)

def resolveParts (flags : Flags) : List Tree -> Except Fault (Expr × Flags)
  | [] => .ok (.empty, flags)
  | [part] => part.resolve flags
  | part :: rest => do
    let (e, flags) ← part.resolve flags
    let (others, flags) ← resolveParts flags rest
    .ok (.seq e others, flags)

end

end Regex
end CompileOnLoad
