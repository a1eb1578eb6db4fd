import CompileOnLoad.Json.Fault

/-!
# JSON numbers

The digits of a number are read into a significand of 64 bits for as long as they fit.  A
number without a point, an exponent or digits beyond that is an integer; any other is the
significand, rounded to binary and then multiplied or divided by a power of ten, rounded
again.
-/

namespace CompileOnLoad
namespace Json

open Decimal (Binary64)

def digitValue (c : Char) : Nat := c.toNat - '0'.toNat

def significandLimit : Nat := Nat.pow 2 64 - 1

def exponentLimit : Nat := Nat.pow 2 31 - 1

/-- Reads digits into a significand, as many as fit, and counts them. -/
def absorb (significand : Nat) : List Char -> Nat × Nat × List Char
  | [] => (significand, 0, [])
  | c :: rest =>
    let more := significand * 10 + digitValue c
    if c.isDigit ∧ more ≤ significandLimit then
      let (result, count, rest) := absorb more rest
      (result, count + 1, rest)
    else (significand, 0, c :: rest)

def greatestPower : Nat := 308

def powerOfTen (exponent : Nat) : Option Binary64 := Binary64.ofNat (Nat.pow 10 exponent)

def divideInSteps : Nat -> Binary64 -> Option Binary64
  | 0, x => some x
  | n + 1, x =>
    if x.isZero then some x
    else (powerOfTen greatestPower).bind fun power => (x.div power).bind (divideInSteps n)

/-- Divides by a power of ten that may be out of range, in steps that are not. -/
def divideByPower (x : Binary64) (power : Nat) : Option Binary64 := do
  let steps := (power - 1) / greatestPower
  let y ← divideInSteps steps x
  if y.isZero then some y else y.div (← powerOfTen (power - steps * greatestPower))

def binaryOf (significand : Nat) (exponent : Int) : Option Binary64 := do
  let x ← Binary64.ofNat significand
  if exponent < 0 then divideByPower x exponent.natAbs
  else if x.isZero then some x
  else if greatestPower < exponent then none
  else x.mul (← powerOfTen exponent.toNat)

def finish (negative : Bool) (significand : Nat) (exponent : Int) (rest : List Char) :
    Reading Number :=
  match binaryOf significand exponent with
  | some x => .ok (.binary negative x, rest)
  | none => .error { cause := .numberOutOfRange, rest }

/-- Reads the digits of an exponent.  If it is one that must not exceed the limit, the digit
with which it does is a fault. -/
def exponentDigits (limited : Bool) (exponent : Nat) : List Char -> Reading Nat
  | [] => .ok (exponent, [])
  | c :: rest =>
    if c.isDigit then
      let more := exponent * 10 + digitValue c
      if limited ∧ exponentLimit < more then .error { cause := .numberOutOfRange, rest }
      else exponentDigits limited more rest
    else .ok (exponent, c :: rest)

def afterMark (negative : Bool) (significand : Nat) (exponent : Int) (cs : List Char) :
    Reading Number :=
  let (down, cs) := match cs with
    | '+' :: rest => (false, rest)
    | '-' :: rest => (true, rest)
    | other => (false, other)
  match cs with
  | [] => .error { cause := .endInValue, rest := [] }
  | c :: rest =>
    if c.isDigit then
      match exponentDigits (!down && significand ≠ 0) (digitValue c) rest with
      | .error fault => .error fault
      | .ok (n, rest) =>
        finish negative significand (if down then exponent - n else exponent + n) rest
    else .error { cause := .invalidNumber, rest := c :: rest, ahead := 1 }

def atMark : List Char -> Option (List Char)
  | 'e' :: rest => some rest
  | 'E' :: rest => some rest
  | _ => none

def startsWithDigit : List Char -> Bool
  | c :: _ => c.isDigit
  | [] => false

def afterPoint (negative : Bool) (significand : Nat) (exponent : Int) (cs : List Char) :
    Reading Number :=
  let (significand, count, rest) := absorb significand cs
  let exponent := exponent - count
  if count = 0 ∧ ¬startsWithDigit rest then
    match rest with
    | [] => .error { cause := .endInValue, rest := [] }
    | _ => .error { cause := .invalidNumber, rest, ahead := 1 }
  else
    let rest := rest.dropWhile Char.isDigit
    match atMark rest with
    | some rest => afterMark negative significand exponent rest
    | none => finish negative significand exponent rest

def afterInteger (negative : Bool) (significand : Nat) (cs : List Char) : Reading Number :=
  match cs with
  | '.' :: rest => afterPoint negative significand 0 rest
  | cs =>
    match atMark cs with
    | some rest => afterMark negative significand 0 rest
    | none =>
      if ¬negative then .ok (.integer significand, cs)
      else if 0 < significand ∧ significand ≤ Nat.pow 2 63 then
        .ok (.integer (-significand), cs)
      else finish true significand 0 cs

/-- Reads a number whose significand does not fit, from the first digit that does not. -/
def afterLongInteger (negative : Bool) (significand : Nat) (cs : List Char) :
    Reading Number :=
  let exponent : Int := (cs.takeWhile Char.isDigit).length
  match cs.dropWhile Char.isDigit with
  | '.' :: rest => afterPoint negative significand exponent rest
  | cs =>
    match atMark cs with
    | some rest => afterMark negative significand exponent rest
    | none => finish negative significand exponent cs

def readNumber (negative : Bool) : List Char -> Reading Number
  | [] => .error { cause := .endInValue, rest := [] }
  | '0' :: rest =>
    if startsWithDigit rest then .error { cause := .invalidNumber, rest, ahead := 1 }
    else afterInteger negative 0 rest
  | c :: rest =>
    if c.isDigit then
      let (significand, _, rest) := absorb (digitValue c) rest
      if startsWithDigit rest then afterLongInteger negative significand rest
      else afterInteger negative significand rest
    else .error { cause := .invalidNumber, rest := c :: rest, ahead := 1 }

end Json
end CompileOnLoad
