import CompileOnLoad.Decimal.Binary64

/-!
# Shortest decimals

A value is written with the fewest decimal digits that no other value is nearer to, and of
the decimals of that length the one nearest to it.  Values from 10 ^ -5 up to 10 ^ 16 are
written in positional notation and have a digit on both sides of the point; others have an
exponent with its sign.
-/

namespace CompileOnLoad
namespace Decimal

structure Scaled where
  digits : Nat
  exponent : Int
  deriving DecidableEq, Repr

def compareScaled (a : Nat) (i : Int) (n : Nat) (j : Int) : Ordering :=
  compare (a * Nat.pow 10 i.toNat * Nat.pow 2 (-j).toNat)
    (n * Nat.pow 2 j.toNat * Nat.pow 10 (-i).toNat)

namespace Binary64

/-- Below a power of two the next value is only half as far away as above it. -/
def isNarrowBelow (x : Binary64) : Bool :=
  x.mantissa = Nat.pow 2 52 && leastExponent < x.exponent

/-- The decimal reads back as this value: no other is nearer to it, or it lies in the middle
and the mantissa of this one is even. -/
def readsBack (x : Binary64) (d : Scaled) : Bool :=
  let low := if x.isNarrowBelow then 4 * x.mantissa - 1 else 4 * x.mantissa - 2
  let high := 4 * x.mantissa + 2
  let closed := x.mantissa % 2 = 0
  let fromLow := compareScaled d.digits d.exponent low (x.exponent - 2)
  let toHigh := compareScaled d.digits d.exponent high (x.exponent - 2)
  (fromLow = .gt || (closed && fromLow = .eq)) && (toHigh = .lt || (closed && toHigh = .eq))

/-- The number of decimal digits before the point; negative if zeros follow the point. -/
def magnitude (x : Binary64) : Int :=
  let (num, den) := x.ratio
  if den ≤ num then ((Nat.toDigits 10 (num / den)).length : Int)
  else 1 - ((Nat.toDigits 10 ((den + num - 1) / num - 1)).length : Int)

def neighbours (x : Binary64) (exponent : Int) : Scaled × Scaled :=
  let (num, den) := x.ratio
  let below := num * Nat.pow 10 (-exponent).toNat / (den * Nat.pow 10 exponent.toNat)
  (⟨below, exponent⟩, ⟨below + 1, exponent⟩)

def nearer (x : Binary64) (below above : Scaled) : Scaled :=
  match compareScaled (below.digits + above.digits) below.exponent x.mantissa
    (x.exponent + 1) with
  | .gt => below
  | .lt => above
  | .eq => if below.digits % 2 = 0 then below else above

/-- The decimal on the grid of multiples of `10 ^ exponent` that reads back, if there is
one. -/
def onGrid (x : Binary64) (exponent : Int) : Option Scaled :=
  let (below, above) := x.neighbours exponent
  match x.readsBack below, x.readsBack above with
  | true, true => some (x.nearer below above)
  | true, false => some below
  | false, true => some above
  | false, false => none

/-- The shortest decimal of a positive value, on the coarsest grid that has one: it begins
with the power of ten above the value, and seventeen digits are always enough. -/
def shortest (x : Binary64) : Scaled :=
  let found := (List.range 18).findSome? fun (n : Nat) => x.onGrid (x.magnitude - n)
  found.getD (x.neighbours (x.magnitude - 17)).1

end Binary64

def zeros (n : Nat) : List Char := List.replicate n '0'

def Scaled.leading (d : Scaled) : Int :=
  d.exponent + (Nat.toDigits 10 d.digits).length - 1

def Scaled.positional (d : Scaled) : List Char :=
  let digits := Nat.toDigits 10 d.digits
  let point := d.leading + 1
  if 0 ≤ d.exponent then digits ++ zeros d.exponent.toNat ++ ['.', '0']
  else if 0 < point then digits.take point.toNat ++ '.' :: digits.drop point.toNat
  else '0' :: '.' :: zeros (-point).toNat ++ digits

def Scaled.scientific (d : Scaled) : List Char :=
  let fraction (rest : List Char) : List Char := if rest = [] then [] else '.' :: rest
  let mark := if d.leading < 0 then ['e', '-'] else ['e', '+']
  let exponent := mark ++ Nat.toDigits 10 d.leading.natAbs
  match Nat.toDigits 10 d.digits with
  | [] => exponent
  | first :: rest => first :: fraction rest ++ exponent

def Scaled.render (d : Scaled) : List Char :=
  if -5 ≤ d.leading ∧ d.leading < 16 then d.positional else d.scientific

def Binary64.render (negative : Bool) (x : Binary64) : String :=
  let sign := if negative then ['-'] else []
  String.ofList (sign ++ if x.isZero then ['0', '.', '0'] else x.shortest.render)

end Decimal
end CompileOnLoad
