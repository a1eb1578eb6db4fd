import CompileOnLoad.Log.Ring
import Mathlib.Data.List.Infix

/-!
# What a ring keeps

A ring is written to and cleared.  Whatever has been done with it, it holds the end of
what was written since it was last cleared, as much of it as there is room for, and has
counted the rest.  So all that it tells of itself is a function of what was written.
-/

namespace CompileOnLoad
namespace Log
namespace Ring

inductive Use where
  | write (record : Record)
  | clear

namespace Use

def apply (ring : Ring) : Use -> Ring
  | write record => ring.push record
  | clear => ring.clear

def note (written : List Record) : Use -> List Record
  | write record => written ++ [record]
  | clear => []

def run (capacity : Nat) (uses : List Use) : Ring :=
  uses.foldl apply { capacity }

def written (uses : List Use) : List Record :=
  uses.foldl note []

end Use

/-- The ring holds the end of what was written, and has counted what it does not hold. -/
structure Retains (ring : Ring) (capacity : Nat) (written : List Record) : Prop where
  capacity_eq : ring.capacity = capacity
  records : ring.records <:+ written
  size : ring.records.length = min written.length capacity
  dropped : ring.dropped + ring.records.length = written.length

variable {ring : Ring} {capacity : Nat} {written : List Record}

theorem retains_empty (capacity : Nat) : Retains { capacity } capacity [] where
  capacity_eq := rfl
  records := List.suffix_refl _
  size := (Nat.zero_min capacity).symm
  dropped := rfl

theorem Retains.clear (h : ring.Retains capacity written) :
    ring.clear.Retains capacity [] where
  capacity_eq := h.capacity_eq
  records := List.suffix_refl _
  size := (Nat.zero_min capacity).symm
  dropped := rfl

/-- A ring without room holds nothing, a full one gives up its oldest record, and any
other one all that was written. -/
theorem Retains.push (h : ring.Retains capacity written) (record : Record) :
    (ring.push record).Retains capacity (written ++ [record]) := by
  rcases h with ⟨hcapacity, hrecords, hsize, hdropped⟩
  have hlength : (written ++ [record]).length = written.length + 1 := List.length_append
  unfold Ring.push
  split
  · next hnone =>
      have hempty : ring.records = [] := List.eq_nil_of_length_eq_zero (by omega)
      constructor
      · exact hcapacity
      · rw [hempty]
        exact List.nil_suffix
      · simp only
        omega
      · simp only
        omega
  · split
    · next hroom hfull =>
        have hkept : (ring.records.drop 1 ++ [record]).length = ring.records.length := by
          rw [List.length_append, List.length_drop, List.length_singleton]
          omega
        constructor
        · exact hcapacity
        · apply List.suffix_concat_iff.mpr
          exact .inr ⟨_, rfl, (List.drop_suffix 1 _).trans hrecords⟩
        · simp only [hkept]
          omega
        · simp only [hkept]
          omega
    · next hroom hfree =>
        have hkept : (ring.records ++ [record]).length = ring.records.length + 1 :=
          List.length_append
        constructor
        · exact hcapacity
        · apply List.suffix_concat_iff.mpr
          exact .inr ⟨_, rfl, hrecords⟩
        · simp only [hkept]
          omega
        · simp only [hkept]
          omega

theorem Retains.apply (h : ring.Retains capacity written) (use : Use) :
    (use.apply ring).Retains capacity (use.note written) := by
  cases use with
  | write record => exact h.push record
  | clear => exact h.clear

theorem Retains.foldl (h : ring.Retains capacity written) (uses : List Use) :
    (uses.foldl Use.apply ring).Retains capacity (uses.foldl Use.note written) := by
  induction uses generalizing ring written with
  | nil => exact h
  | cons use rest ih => exact ih (h.apply use)

theorem retains_run (capacity : Nat) (uses : List Use) :
    (Use.run capacity uses).Retains capacity (Use.written uses) :=
  (retains_empty capacity).foldl uses

theorem count_eq_countP (ring : Ring) (level : Level) (needle : String) :
    ring.count level needle =
      ring.records.countP fun r =>
        r.level = level ∧ needle.toList <:+: r.message.toList := by
  rw [List.countP_eq_length_filter]
  unfold count
  congr 2
  funext r
  rw [Bool.decide_and]
  congr 1
  exact Bool.eq_iff_iff.mpr (occursIn_iff_isInfix.trans decide_eq_true_iff.symm)

/-- All that a ring tells of itself, from what was written: of `n` records it holds the
last `min n capacity`. -/
structure HoldsLast (ring : Ring) (capacity : Nat) (written : List Record) : Prop where
  records : ring.records = written.drop (written.length - min written.length capacity)
  size : ring.size = min written.length capacity
  room : ring.size ≤ capacity
  dropped : ring.dropped = written.length - min written.length capacity
  isEmpty : ring.isEmpty = true <-> ring.size = 0
  stats : ring.stats = ⟨ring.size, ring.dropped, capacity⟩
  /-- The kept records of a level with the needle somewhere in the message. -/
  count : forall level needle, ring.count level needle =
    ring.records.countP fun r =>
      r.level = level ∧ needle.toList <:+: r.message.toList

theorem Retains.holdsLast (h : ring.Retains capacity written) :
    ring.HoldsLast capacity written := by
  have hsize := h.size
  have hdropped := h.dropped
  constructor
  case records =>
    rw [← hsize]
    exact List.suffix_iff_eq_drop.mp h.records
  case size => exact hsize
  case room =>
    unfold Ring.size
    omega
  case dropped => omega
  case isEmpty => exact List.isEmpty_iff_length_eq_zero
  case stats =>
    unfold Ring.stats
    rw [h.capacity_eq]
  case count => exact ring.count_eq_countP

/-- Whatever is done with a ring, it holds the last records since it was cleared. -/
theorem run_holdsLast (capacity : Nat) (uses : List Use) :
    (Use.run capacity uses).HoldsLast capacity (Use.written uses) :=
  (retains_run capacity uses).holdsLast

end Ring
end Log
end CompileOnLoad
