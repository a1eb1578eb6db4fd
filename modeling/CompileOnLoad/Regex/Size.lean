import CompileOnLoad.Regex.Expr

/-!
# The size of an expression

Counted repetitions write an expression out in short form: `a{1000}` stands for a thousand
copies.  The size of an expression is that of the program it stands for, in which every copy
counts, and expressions above a limit are refused.  A program has a state of 32 bytes for
each byte of a single character; a set of ASCII characters takes two states and 8 bytes for
each of its ranges, and the bytes of other characters are spelled out in states of their
own.
-/

namespace CompileOnLoad
namespace Regex

def stateSize : Nat := 32

def sizeLimit : Nat := 10485760

def byteCount (n : Nat) : Nat :=
  if n < 0x80 then 1 else if n < 0x800 then 2 else if n < 0x10000 then 3 else 4

def setSize (s : CharSet) : Nat :=
  let ranges := s.changes.length / 2
  match s.changes with
  | [] => stateSize
  | n :: rest =>
    if rest = [n + 1] then byteCount n * stateSize
    else if rest.all (· ≤ 0x80) then 2 * stateSize + 8 * ranges
    else 9 * stateSize + 56 * ranges

namespace Expr

def matchesEmptyOnly : Expr -> Bool
  | empty => true
  | chars _ => false
  | condition _ => true
  | seq a b => a.matchesEmptyOnly && b.matchesEmptyOnly
  | alt a b => a.matchesEmptyOnly && b.matchesEmptyOnly
  | repetition a _ most => most = some 0 || a.matchesEmptyOnly
  | capture a => a.matchesEmptyOnly

/-- The size of the program of an expression.  Repeating what matches nothing but the empty
stretch is written at most once. -/
def size : Expr -> Nat
  | empty => stateSize
  | chars s => setSize s
  | condition _ => stateSize
  | seq a b => a.size + b.size
  | alt a b => a.size + b.size + stateSize + 4
  | repetition a least most =>
    let (least, most) :=
      if a.matchesEmptyOnly then (min least 1, some (min (most.getD 1) 1)) else (least, most)
    match most with
    | none => max least 1 * a.size + stateSize
    | some 0 => stateSize
    | some m => m * a.size + (m - least) * (stateSize + 8)
  | capture a => a.size + 2 * stateSize

end Expr
end Regex
end CompileOnLoad
