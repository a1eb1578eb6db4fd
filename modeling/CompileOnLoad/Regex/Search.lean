import CompileOnLoad.Regex.Expr

/-!
# Searching a text

The places of a text are the bits of a number: a set of places is a number, and an
expression takes the set of the places where it may begin to the set of those where it may
end.  A repetition need not be tried more often than the text has characters, because a
round that matches nothing can be left out.
-/

namespace CompileOnLoad
namespace Regex

def bit (b : Bool) : Nat := if b then 1 else 0

def placesBefore (set : CharSet) : List Char -> Nat
  | [] => 0
  | c :: rest => bit (set.contains c) + 2 * placesBefore set rest

def placesWhere (cond : Condition) (before : Option Char) : List Char -> Nat
  | [] => bit (cond.holds before none)
  | c :: rest => bit (cond.holds before (some c)) + 2 * placesWhere cond (some c) rest

def iterate (f : Nat -> Nat) : Nat -> Nat -> Nat
  | 0, places => places
  | n + 1, places =>
    let after := f places
    if after = places then places else iterate f n after

def reach (f : Nat -> Nat) : Nat -> Nat -> Nat
  | 0, places => places
  | n + 1, places =>
    let more := places ||| f places
    if more = places then places else reach f n more

namespace Expr

/-- The places where a match may end that begins at one of the given places. -/
def ends (text : List Char) : Expr -> Nat -> Nat
  | empty, places => places
  | chars set, places => (places &&& placesBefore set text) <<< 1
  | condition cond, places => places &&& placesWhere cond none text
  | seq a b, places => ends text b (ends text a places)
  | alt a b, places => ends text a places ||| ends text b places
  | repetition a least most, places =>
    let more := match most with
      | some m => min (m - least) text.length
      | none => text.length
    reach (ends text a) more (iterate (ends text a) least places)
  | capture a, places => ends text a places

def occursIn (e : Expr) (text : List Char) : Bool :=
  e.ends text (Nat.pow 2 (text.length + 1) - 1) ≠ 0

end Expr
end Regex
end CompileOnLoad
