import CompileOnLoad.Unicode.Property

/-!
# Regular expressions and what they match

An expression matches a stretch of a text.  Conditions on places look at the characters
before and after a place, so matching is a relation between two places of a text and not
only of the characters between them.
-/

namespace CompileOnLoad
namespace Regex

/-- A condition on a place, given by the character before it and the one after it. -/
inductive Condition where
  | textStart
  | textEnd
  | lineStart
  | lineEnd
  | anyLineStart
  | anyLineEnd
  | boundary (words : CharSet)
  | notBoundary (words : CharSet)
  | wordStart (words : CharSet)
  | wordEnd (words : CharSet)
  | wordStartHalf (words : CharSet)
  | wordEndHalf (words : CharSet)
  deriving DecidableEq, Repr

namespace Condition

def holds (before after : Option Char) : Condition -> Bool
  | textStart => before.isNone
  | textEnd => after.isNone
  | lineStart => before.isNone || before = some '\n'
  | lineEnd => after.isNone || after = some '\n'
  | anyLineStart =>
    before.isNone || before = some '\n' || (before = some '\r' && after ≠ some '\n')
  | anyLineEnd =>
    after.isNone || after = some '\r' || (after = some '\n' && before ≠ some '\r')
  | boundary words => before.any words.contains != after.any words.contains
  | notBoundary words => before.any words.contains == after.any words.contains
  | wordStart words => !before.any words.contains && after.any words.contains
  | wordEnd words => before.any words.contains && !after.any words.contains
  | wordStartHalf words => !before.any words.contains
  | wordEndHalf words => !after.any words.contains

end Condition

/-- A regular expression; `most` is the greatest number of repetitions, if there is one. -/
inductive Expr where
  | empty
  | chars (set : CharSet)
  | condition (condition : Condition)
  | seq (first second : Expr)
  | alt (left right : Expr)
  | repetition (body : Expr) (least : Nat) (most : Option Nat)
  | capture (body : Expr)
  deriving DecidableEq, Repr

def charBefore (text : List Char) (i : Nat) : Option Char :=
  if i = 0 then none else text[i - 1]?

mutual

/-- The expression matches the stretch between two places of the text. -/
inductive Matches (text : List Char) : Expr -> Nat -> Nat -> Prop where
  | empty (i : Nat) : Matches text .empty i i
  | chars {set : CharSet} {c : Char} {i : Nat} :
      text[i]? = some c -> set.contains c = true -> Matches text (.chars set) i (i + 1)
  | condition {cond : Condition} {i : Nat} :
      cond.holds (charBefore text i) text[i]? = true -> Matches text (.condition cond) i i
  | seq {a b : Expr} {i j k : Nat} :
      Matches text a i j -> Matches text b j k -> Matches text (.seq a b) i k
  | left {a b : Expr} {i j : Nat} : Matches text a i j -> Matches text (.alt a b) i j
  | right {a b : Expr} {i j : Nat} : Matches text b i j -> Matches text (.alt a b) i j
  | repetition {a : Expr} {least : Nat} {most : Option Nat} {n i j : Nat} :
      least ≤ n -> (forall m, m ∈ most -> n ≤ m) -> Repeats text a n i j ->
      Matches text (.repetition a least most) i j
  | capture {a : Expr} {i j : Nat} : Matches text a i j -> Matches text (.capture a) i j

/-- The expression matches `n` stretches in a row between two places of the text. -/
inductive Repeats (text : List Char) : Expr -> Nat -> Nat -> Nat -> Prop where
  | zero (a : Expr) (i : Nat) : Repeats text a 0 i i
  | succ {a : Expr} {n i j k : Nat} :
      Matches text a i j -> Repeats text a n j k -> Repeats text a (n + 1) i k

end

end Regex
end CompileOnLoad
