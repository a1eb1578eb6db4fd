import CompileOnLoad.Proofs.LogLines
import Mathlib.Data.String.Basic

/-!
# The time of day in figures

A clock shows hours, minutes, seconds and milliseconds, each in as many figures as its
largest value has.  Together they make up the milliseconds since midnight.  As every part
has a fixed width and the larger units stand first, the texts of two times are in the order
of the times, if both are of one day.
-/

namespace CompileOnLoad
namespace Log

/-!
# Figures
-/

def padded (width n : Nat) : List Char :=
  (Nat.toDigits 10 n).leftpad width '0'

theorem leftpad_concat {α : Type} (width : Nat) (a last : α) (l : List α) :
    (l ++ [last]).leftpad (width + 1) a = l.leftpad width a ++ [last] := by
  unfold List.leftpad
  rw [List.length_append, List.length_singleton, Nat.add_sub_add_right, List.append_assoc]

theorem padded_one {n : Nat} (hn : n < 10) : padded 1 n = [Nat.digitChar n] := by
  unfold padded
  rw [Nat.toDigits_of_lt_base hn]
  rfl

/-- The last figure is the remainder; before it stands the quotient, of which nothing but
zeros is left for a number of one figure. -/
theorem padded_succ {width : Nat} (hwidth : 0 < width) (n : Nat) :
    padded (width + 1) n = padded width (n / 10) ++ [Nat.digitChar (n % 10)] := by
  unfold padded
  by_cases hn : n < 10
  · have hzero : Nat.toDigits 10 0 = ['0'] := rfl
    rw [Nat.toDigits_of_lt_base hn, Nat.div_eq_of_lt hn, Nat.mod_eq_of_lt hn, hzero,
      ← List.nil_append [Nat.digitChar n], leftpad_concat]
    congr 1
    unfold List.leftpad
    rw [List.length_nil, Nat.sub_zero, List.append_nil, List.length_singleton,
      ← List.replicate_succ', Nat.sub_add_cancel hwidth]
  · rw [Nat.toDigits_of_base_le (by decide) (Nat.le_of_not_lt hn), leftpad_concat]

theorem twoDigits_eq_padded {n : Nat} (hn : n < 100) : twoDigits n = padded 2 n := by
  have hquotient : n / 10 < 10 := by omega
  rw [padded_succ (by decide), padded_one hquotient]
  unfold twoDigits
  rw [Nat.mod_eq_of_lt hquotient]
  rfl

theorem threeDigits_eq_padded {n : Nat} (hn : n < 1000) : threeDigits n = padded 3 n := by
  have hquotient : n / 10 < 100 := by omega
  rw [padded_succ (by decide), ← twoDigits_eq_padded hquotient]
  unfold threeDigits twoDigits
  rw [Nat.div_div_eq_div_mul]
  rfl

/-!
# Order
-/

theorem append_lt_append_iff {before start after rest : List Char}
    (hlength : before.length = start.length) :
    before ++ after < start ++ rest <-> before < start ∨ before = start ∧ after < rest := by
  induction before generalizing start with
  | nil =>
      rw [List.length_nil, eq_comm, List.length_eq_zero_iff] at hlength
      subst hlength
      simp
  | cons c others ih =>
      cases start with
      | nil => cases hlength
      | cons d more =>
          have hlength : others.length = more.length := Nat.succ.inj hlength
          rw [List.cons_append, List.cons_append, List.cons_lt_cons_iff,
            List.cons_lt_cons_iff, ih hlength, List.cons.injEq]
          tauto

theorem digitChar_lt_iff {m n : Nat} (hm : m < 10) (hn : n < 10) :
    Nat.digitChar m < Nat.digitChar n <-> m < n := by
  have hvalue : Nat.digitChar m < Nat.digitChar n <->
      (Nat.digitChar m).toNat < (Nat.digitChar n).toNat := Iff.rfl
  rw [hvalue, Nat.toNat_digitChar_of_lt_ten hm, Nat.toNat_digitChar_of_lt_ten hn]
  omega

theorem digitChar_eq_iff {m n : Nat} (hm : m < 10) (hn : n < 10) :
    Nat.digitChar m = Nat.digitChar n <-> m = n := by
  rw [← Char.toNat_inj, Nat.toNat_digitChar_of_lt_ten hm, Nat.toNat_digitChar_of_lt_ten hn]
  omega

theorem twoDigits_lt_iff {m n : Nat} : twoDigits m < twoDigits n <-> m % 100 < n % 100 := by
  have hfigure (k : Nat) : k % 10 < 10 := Nat.mod_lt _ (by decide)
  unfold twoDigits
  rw [List.cons_lt_cons_iff, List.cons_lt_cons_iff,
    digitChar_lt_iff (hfigure _) (hfigure _), digitChar_eq_iff (hfigure _) (hfigure _),
    digitChar_lt_iff (hfigure _) (hfigure _)]
  simp only [List.lt_irrefl, and_false, or_false]
  omega

theorem threeDigits_lt_iff {m n : Nat} :
    threeDigits m < threeDigits n <-> m % 1000 < n % 1000 := by
  have hfigure (k : Nat) : k % 10 < 10 := Nat.mod_lt _ (by decide)
  unfold threeDigits
  rw [List.cons_lt_cons_iff, digitChar_lt_iff (hfigure _) (hfigure _),
    digitChar_eq_iff (hfigure _) (hfigure _), twoDigits_lt_iff]
  omega

theorem twoDigits_append_lt_iff {m n : Nat} {mark : Char} {after rest : List Char} :
    twoDigits m ++ mark :: after < twoDigits n ++ mark :: rest <->
      m % 100 < n % 100 ∨ m % 100 = n % 100 ∧ after < rest := by
  have hlength : (twoDigits m).length = (twoDigits n).length := rfl
  rw [append_lt_append_iff hlength, twoDigits_lt_iff, twoDigits_eq_iff, List.cons_lt_cons_iff]
  simp only [lt_irrefl, false_or, true_and]

/-!
# Clocks
-/

structure TimeOfDay where
  hours : Nat
  minutes : Nat
  seconds : Nat
  milliseconds : Nat
  hours_lt : hours < 24
  minutes_lt : minutes < 60
  seconds_lt : seconds < 60
  milliseconds_lt : milliseconds < 1000

namespace TimeOfDay

def total (t : TimeOfDay) : Nat :=
  ((t.hours * 60 + t.minutes) * 60 + t.seconds) * 1000 + t.milliseconds

def text (t : TimeOfDay) : List Char :=
  padded 2 t.hours ++ [':'] ++ padded 2 t.minutes ++ [':'] ++ padded 2 t.seconds ++ ['.'] ++
    padded 3 t.milliseconds

def ofTime (time : UInt64) : TimeOfDay where
  hours := time.toNat / 1000 / 3600 % 24
  minutes := time.toNat / 1000 / 60 % 60
  seconds := time.toNat / 1000 % 60
  milliseconds := time.toNat % 1000
  hours_lt := Nat.mod_lt _ (by decide)
  minutes_lt := Nat.mod_lt _ (by decide)
  seconds_lt := Nat.mod_lt _ (by decide)
  milliseconds_lt := Nat.mod_lt _ (by decide)

theorem total_ofTime (time : UInt64) :
    (ofTime time).total = time.toNat % millisecondsPerDay := by
  unfold total ofTime millisecondsPerDay
  simp only
  omega

theorem text_eq (t : TimeOfDay) :
    t.text = twoDigits t.hours ++ ':' :: (twoDigits t.minutes ++ ':' ::
      (twoDigits t.seconds ++ '.' :: threeDigits t.milliseconds)) := by
  have hhours := Nat.lt_trans t.hours_lt (by decide : 24 < 100)
  have hminutes := Nat.lt_trans t.minutes_lt (by decide : 60 < 100)
  have hseconds := Nat.lt_trans t.seconds_lt (by decide : 60 < 100)
  rw [twoDigits_eq_padded hhours, twoDigits_eq_padded hminutes, twoDigits_eq_padded hseconds,
    threeDigits_eq_padded t.milliseconds_lt]
  simp [text]

theorem text_ofTime (time : UInt64) : (ofTime time).text = clock time := by
  rw [text_eq]
  simp [clock, ofTime]

/-- The larger units decide first, and no part is large enough to make up for one of them. -/
theorem text_lt_text_iff (t u : TimeOfDay) : t.text < u.text <-> t.total < u.total := by
  rcases t with ⟨hours, minutes, seconds, milliseconds, hhours, hminutes, hseconds, hrest⟩
  rcases u with
    ⟨hours', minutes', seconds', milliseconds', hhours', hminutes', hseconds', hrest'⟩
  rw [text_eq, text_eq, twoDigits_append_lt_iff, twoDigits_append_lt_iff,
    twoDigits_append_lt_iff, threeDigits_lt_iff]
  unfold total
  simp only
  omega

end TimeOfDay

def SameDay (time other : UInt64) : Prop :=
  time.toNat / millisecondsPerDay = other.toNat / millisecondsPerDay

instance (time other : UInt64) : Decidable (SameDay time other) :=
  inferInstanceAs (Decidable (_ = _))

/-- Of two times of one day, the text of the earlier one is the smaller one. -/
theorem SameDay.clock_lt_iff {time other : UInt64} (h : SameDay time other) :
    String.ofList (clock time) < String.ofList (clock other) <-> time < other := by
  unfold SameDay at h
  rw [String.lt_iff_toList_lt, String.toList_ofList, String.toList_ofList,
    ← TimeOfDay.text_ofTime, ← TimeOfDay.text_ofTime, TimeOfDay.text_lt_text_iff,
    TimeOfDay.total_ofTime, TimeOfDay.total_ofTime, UInt64.lt_iff_toNat_lt]
  unfold millisecondsPerDay at h ⊢
  omega

theorem SameDay.clock_eq_iff {time other : UInt64} (h : SameDay time other) :
    String.ofList (clock time) = String.ofList (clock other) <-> time = other := by
  unfold SameDay at h
  rw [String.ofList_inj, Log.clock_eq_iff, ← UInt64.toNat_inj]
  unfold SameTimeOfDay
  unfold millisecondsPerDay at h ⊢
  omega

/-- A clock shows the time of the day in twelve characters, and within a day the order of
the texts is the order of the times. -/
theorem clock_shows_time :
    (forall time : UInt64, (clock time).length = 12 ∧
      exists t : TimeOfDay, clock time = t.text ∧ t.total = time.toNat % millisecondsPerDay) ∧
    forall time other : UInt64, SameDay time other ->
      (String.ofList (clock time) < String.ofList (clock other) <-> time < other) ∧
      (String.ofList (clock time) = String.ofList (clock other) <-> time = other) := by
  constructor
  · intro time
    refine ⟨length_clock time, TimeOfDay.ofTime time, ?_, TimeOfDay.total_ofTime time⟩
    exact (TimeOfDay.text_ofTime time).symm
  · intro time other hday
    exact ⟨hday.clock_lt_iff, hday.clock_eq_iff⟩

/-- The last two times that a number of 64 bits can be. -/
theorem clock_shows_time_at_end :
    SameDay 18446744073709551614 18446744073709551615 ∧
    String.ofList (clock 18446744073709551614) < String.ofList (clock 18446744073709551615) ∧
    String.ofList (clock 18446744073709551614) ≠
      String.ofList (clock 18446744073709551615) := by
  have hday : SameDay 18446744073709551614 18446744073709551615 := by decide
  rcases clock_shows_time.2 _ _ hday with ⟨horder, hequal⟩
  refine ⟨hday, horder.mpr (by decide), ?_⟩
  intro h
  exact absurd (hequal.mp h) (by decide)

end Log
end CompileOnLoad
