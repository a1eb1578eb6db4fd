import CompileOnLoad.Regex.Fault

/-!
# Written expressions as trees

The tree of a written expression keeps what the text says and where: flags, names of
properties and the stretch of every part.
-/

namespace CompileOnLoad
namespace Regex

/-- A character that stands for itself.  `isByte` marks two-digit hexadecimal escapes, which
mean a byte where Unicode is switched off. -/
structure Literal where
  span : Span
  char : Char
  isByte : Bool := false
  deriving DecidableEq, Repr

inductive LetterClass where
  | digit
  | space
  | word
  deriving DecidableEq, Repr

inductive AsciiClass where
  | alnum
  | alpha
  | ascii
  | blank
  | cntrl
  | digit
  | graph
  | lower
  | print
  | punct
  | space
  | upper
  | word
  | xdigit
  deriving DecidableEq, Repr

inductive PropertyQuery where
  | named (name : String)
  | valued (property value : String)
  deriving DecidableEq, Repr

inductive ClassOperation where
  | intersection
  | difference
  | symmetricDifference
  deriving DecidableEq, Repr

inductive ClassTree where
  | empty (span : Span)
  | literal (literal : Literal)
  | range (span : Span) (low high : Literal)
  | ascii (span : Span) (negated : Bool) (kind : AsciiClass)
  | property (span : Span) (negated : Bool) (query : PropertyQuery)
  | letter (span : Span) (negated : Bool) (kind : LetterClass)
  | bracketed (span : Span) (negated : Bool) (inner : ClassTree)
  | union (span : Span) (items : List ClassTree)
  | operation (span : Span) (kind : ClassOperation) (left right : ClassTree)
  deriving Repr

def ClassTree.span : ClassTree -> Span
  | empty span | range span _ _ | ascii span _ _ | property span _ _ | letter span _ _
  | bracketed span _ _ | union span _ | operation span _ _ _ => span
  | literal l => l.span

inductive Assertion where
  | lineStart
  | lineEnd
  | textStart
  | textEnd
  | wordBoundary
  | notWordBoundary
  | wordStart
  | wordEnd
  | wordStartHalf
  | wordEndHalf
  deriving DecidableEq, Repr

inductive Flag where
  | ignoreCase
  | multiLine
  | dotMatchesNewLine
  | swapGreed
  | unicode
  | carriageReturn
  | ignoreSpace
  deriving DecidableEq, Repr

/-- What is written between `?` and `:` or `)`: flags, and the sign after which flags are
cleared. -/
inductive FlagItem where
  | flag (flag : Flag)
  | negation
  deriving DecidableEq, Repr

/-- What a list of items does to a flag: sets it, clears it, or leaves it alone. -/
def flagValue? (flag : Flag) (negated : Bool) : List FlagItem -> Option Bool
  | [] => none
  | .negation :: rest => flagValue? flag true rest
  | .flag other :: rest =>
    if other = flag then some (!negated) else flagValue? flag negated rest

inductive Tree where
  | empty (span : Span)
  | flags (span : Span) (items : List FlagItem)
  | literal (literal : Literal)
  | dot (span : Span)
  | assertion (span : Span) (kind : Assertion)
  | property (span : Span) (negated : Bool) (query : PropertyQuery)
  | letter (span : Span) (negated : Bool) (kind : LetterClass)
  | bracketed (span : Span) (negated : Bool) (inner : ClassTree)
  | repetition (span : Span) (least : Nat) (most : Option Nat) (body : Tree)
  | group (span : Span) (isCapture : Bool) (flags : List FlagItem) (body : Tree)
  | alternation (span : Span) (branches : List Tree)
  | concat (span : Span) (parts : List Tree)
  deriving Repr

def Tree.span : Tree -> Span
  | empty span | flags span _ | dot span | assertion span _ | property span _ _
  | letter span _ _
  | bracketed span _ _ | repetition span _ _ _ | group span _ _ _ | alternation span _
  | concat span _ => span
  | literal l => l.span

def Tree.ofParts (span : Span) : List Tree -> Tree
  | [] => .empty span
  | [part] => part
  | parts => .concat span parts

/-!
# Nesting
-/

mutual

/-- The first part of a class that lies deeper than the limit, when the class itself is at a
depth. -/
def ClassTree.tooDeep (depth : Nat) : ClassTree -> Option Span
  | .bracketed span _ inner =>
    if nestLimit ≤ depth then some span else inner.tooDeep (depth + 1)
  | .union span items =>
    if nestLimit ≤ depth then some span else classesTooDeep (depth + 1) items
  | .operation span _ left right =>
    if nestLimit ≤ depth then some span
    else (left.tooDeep (depth + 1)).or (right.tooDeep (depth + 1))
  | _ => none

def classesTooDeep (depth : Nat) : List ClassTree -> Option Span
  | [] => none
  | item :: rest => (item.tooDeep depth).or (classesTooDeep depth rest)

end

mutual

def Tree.tooDeep (depth : Nat) : Tree -> Option Span
  | .bracketed span _ inner =>
    if nestLimit ≤ depth then some span else inner.tooDeep (depth + 1)
  | .repetition span _ _ body =>
    if nestLimit ≤ depth then some span else body.tooDeep (depth + 1)
  | .group span _ _ body =>
    if nestLimit ≤ depth then some span else body.tooDeep (depth + 1)
  | .alternation span branches =>
    if nestLimit ≤ depth then some span else treesTooDeep (depth + 1) branches
  | .concat span parts =>
    if nestLimit ≤ depth then some span else treesTooDeep (depth + 1) parts
  | _ => none

def treesTooDeep (depth : Nat) : List Tree -> Option Span
  | [] => none
  | tree :: rest => (tree.tooDeep depth).or (treesTooDeep depth rest)

end

end Regex
end CompileOnLoad
