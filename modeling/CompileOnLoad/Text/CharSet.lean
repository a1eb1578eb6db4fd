/-!
# Sets of characters

A set of characters is the increasing list of the numbers at which membership changes: the
first number is the start of the first range, the second the number after its end, and so
on.  Two sets are combined by one walk along both lists, whatever the Boolean operation.
-/

namespace CompileOnLoad

/-- A set of character numbers, by the numbers at which membership changes. -/
structure CharSet where
  changes : List Nat
  deriving DecidableEq, Repr

namespace CharSet

/-- Membership, for a list of changes that starts outside. -/
def isInside : List Nat -> Nat -> Bool
  | [], _ => false
  | b :: rest, n => if n < b then false else !isInside rest n

def contains (s : CharSet) (c : Char) : Bool :=
  isInside s.changes c.toNat

def empty : CharSet := ⟨[]⟩

def range (low high : Nat) : CharSet := ⟨[low, high + 1]⟩

def single (c : Char) : CharSet := range c.toNat c.toNat

def all : CharSet := ⟨[0, 0xD800, 0xE000, 0x110000]⟩

/-- Walks along both lists, for at most `steps` changes, and notes where `op` of the two
memberships changes. -/
def merge (op : Bool -> Bool -> Bool) :
    Nat -> Bool -> Bool -> List Nat -> List Nat -> List Nat
  | 0, _, _, _, _ => []
  | _ + 1, _, _, [], [] => []
  | steps + 1, inA, inB, a :: as, [] =>
    note (op inA inB) (op (!inA) inB) a (merge op steps (!inA) inB as [])
  | steps + 1, inA, inB, [], b :: bs =>
    note (op inA inB) (op inA (!inB)) b (merge op steps inA (!inB) [] bs)
  | steps + 1, inA, inB, a :: as, b :: bs =>
    if a < b then note (op inA inB) (op (!inA) inB) a (merge op steps (!inA) inB as (b :: bs))
    else if b < a then
      note (op inA inB) (op inA (!inB)) b (merge op steps inA (!inB) (a :: as) bs)
    else note (op inA inB) (op (!inA) (!inB)) a (merge op steps (!inA) (!inB) as bs)
where
  note (before after : Bool) (n : Nat) (rest : List Nat) : List Nat :=
    if before = after then rest else n :: rest

/-- The set of the characters that `op` selects by their membership in `s` and in `t`; `op`
selects none that are in neither. -/
def combine (op : Bool -> Bool -> Bool) (s t : CharSet) : CharSet :=
  ⟨merge op (s.changes.length + t.changes.length) false false s.changes t.changes⟩

def union (s t : CharSet) : CharSet := combine (· || ·) s t
def inter (s t : CharSet) : CharSet := combine (· && ·) s t
def diff (s t : CharSet) : CharSet := combine (fun a b => a && !b) s t
def symmDiff (s t : CharSet) : CharSet := combine (· != ·) s t

def compl (s : CharSet) : CharSet := diff all s

def isEmpty (s : CharSet) : Bool := s.changes.isEmpty

def ranges (s : CharSet) : List (Nat × Nat) :=
  pair s.changes
where
  pair : List Nat -> List (Nat × Nat)
    | low :: next :: rest => (low, next - 1) :: pair rest
    | _ => []

def ofRanges (rs : List (Nat × Nat)) : CharSet :=
  rs.foldl (fun s r => s.union (range r.1 r.2)) empty

/-!
# Written tables

A table of a standard is written as the differences between successive changes.  A
difference is written in base 32, lowest digit first; the last digit of each is one of `0`
to `V`, the others are taken from the alphabet that follows it.
-/

def digit (c : Char) : Nat × Bool :=
  let n := c.toNat
  if n ≤ 57 ∧ 48 ≤ n then (n - 48, true)
  else if 65 ≤ n ∧ n ≤ 86 then (n - 55, true)
  else if 87 ≤ n ∧ n ≤ 90 then (n - 87, false)
  else if 97 ≤ n ∧ n ≤ 122 then (n - 93, false)
  else if c = '_' then (30, false)
  else (31, false)

/-- The changes of a written table from a digit on: the change before it, the value and
weight of the number in progress. -/
def readTable (last value weight : Nat) : List Char -> List Nat
  | [] => []
  | c :: rest =>
    let (d, isLast) := digit c
    if isLast then
      let next := last + value + d * weight
      next :: readTable next 0 1 rest
    else readTable last (value + d * weight) (weight * 32) rest

def ofTable (lines : List String) : CharSet :=
  ⟨readTable 0 0 1 (lines.flatMap String.toList)⟩

end CharSet
end CompileOnLoad
