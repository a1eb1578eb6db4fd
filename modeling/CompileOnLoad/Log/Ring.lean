import CompileOnLoad.Log.Record
import CompileOnLoad.Panic
import CompileOnLoad.Text.Occurrence

/-!
# Ring buffers

A ring keeps the last records that were written to it, up to its capacity, and counts those
that it had to drop.
-/

namespace CompileOnLoad
namespace Log

/-- A ring buffer; the records are in the order of writing. -/
structure Ring where
  capacity : Nat
  records : List Record := []
  dropped : Nat := 0
  deriving DecidableEq, Repr

structure RingStats where
  recordCount : Nat
  droppedCount : Nat
  capacity : Nat
  deriving DecidableEq, Repr

namespace Ring

/-- The bytes of a record: a word each for the time and the level, two words each for the
target and the span, and three for the message. -/
def recordSize : Nat := 8 * (1 + 1 + 2 + 2 + 3)

def memoryLimit : Nat := Nat.pow 2 63 - 1

def Fits (capacity : Nat) : Prop := capacity * recordSize ≤ memoryLimit

instance (capacity : Nat) : Decidable (Fits capacity) :=
  inferInstanceAs (Decidable (_ ≤ _))

def overflow : Panic := .text "capacity overflow"

/-- Makes an empty ring.  Its memory is asked for at once, as much as the capacity needs. -/
def make (capacity : Nat) : Except Panic Ring :=
  if Fits capacity then .ok { capacity } else .error overflow

theorem make_of_fits {capacity : Nat} (h : Fits capacity) :
    make capacity = .ok { capacity } :=
  if_pos h

theorem make_of_not_fits {capacity : Nat} (h : ¬ Fits capacity) :
    make capacity = .error overflow :=
  if_neg h

def size (ring : Ring) : Nat := ring.records.length

def isEmpty (ring : Ring) : Bool := ring.records.isEmpty

/-- Writes a record; a full ring drops its oldest record for it, and a ring without room
drops the record itself. -/
def push (ring : Ring) (record : Record) : Ring :=
  if ring.capacity = 0 then { ring with dropped := ring.dropped + 1 }
  else if ring.capacity ≤ ring.records.length then
    { ring with records := ring.records.drop 1 ++ [record], dropped := ring.dropped + 1 }
  else { ring with records := ring.records ++ [record] }

def clear (ring : Ring) : Ring :=
  { ring with records := [], dropped := 0 }

def count (ring : Ring) (level : Level) (needle : String) : Nat :=
  (ring.records.filter fun r => r.level = level && textContains r.message needle).length

def stats (ring : Ring) : RingStats := ⟨ring.size, ring.dropped, ring.capacity⟩

def dump (ring : Ring) : String :=
  String.intercalate "\n" (ring.records.map Record.line)

end Ring
end Log
end CompileOnLoad
