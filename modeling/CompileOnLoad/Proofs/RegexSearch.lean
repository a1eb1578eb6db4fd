import CompileOnLoad.Regex.Search
import Mathlib.Computability.Language
import Mathlib.Data.Nat.Bitwise

/-!
# Searching finds the matches

The search keeps the places of a text as the bits of a number and goes through the
expression once.  What it finds is what the expression matches: a set of places is taken to
the places where the matches end that begin at one of them.

Two steps cut the search short.  Rounds of a repetition are no longer tried once they lead to
no other places, and never more often than the text has characters.  Neither loses a match,
since a round that matches nothing can be left out.
-/

namespace CompileOnLoad
namespace Regex

variable {text : List Char} {a b : Expr} {i j k n : Nat}

/-!
# What the constructors match
-/

theorem matches_empty : Matches text .empty i j <-> i = j := by
  constructor
  · rintro ⟨⟩
    rfl
  · rintro rfl
    exact .empty i

theorem matches_chars {set : CharSet} :
    Matches text (.chars set) i j <->
      exists c, text[i]? = some c ∧ set.contains c = true ∧ j = i + 1 := by
  constructor
  · rintro ⟨⟩
    next c hset hc => exact ⟨c, hc, hset, rfl⟩
  · rintro ⟨c, hc, hset, rfl⟩
    exact .chars hc hset

theorem matches_condition {cond : Condition} :
    Matches text (.condition cond) i j <->
      i = j ∧ cond.holds (charBefore text i) text[i]? = true := by
  constructor
  · rintro ⟨⟩
    next hholds => exact ⟨rfl, hholds⟩
  · rintro ⟨rfl, hholds⟩
    exact .condition hholds

theorem matches_seq :
    Matches text (.seq a b) i k <-> exists j, Matches text a i j ∧ Matches text b j k := by
  constructor
  · rintro ⟨⟩
    next j ha hb => exact ⟨j, ha, hb⟩
  · rintro ⟨j, ha, hb⟩
    exact .seq ha hb

theorem matches_alt :
    Matches text (.alt a b) i j <-> Matches text a i j ∨ Matches text b i j := by
  constructor
  · rintro ⟨⟩
    · next ha => exact .inl ha
    · next hb => exact .inr hb
  · rintro (ha | hb)
    · exact .left ha
    · exact .right hb

theorem matches_repetition {least : Nat} {most : Option Nat} :
    Matches text (.repetition a least most) i j <->
      exists n, least ≤ n ∧ (forall m, m ∈ most -> n ≤ m) ∧ Repeats text a n i j := by
  constructor
  · rintro ⟨⟩
    next n hleast hmost hrounds => exact ⟨n, hleast, hmost, hrounds⟩
  · rintro ⟨n, hleast, hmost, hrounds⟩
    exact .repetition hleast hmost hrounds

theorem matches_capture : Matches text (.capture a) i j <-> Matches text a i j := by
  constructor
  · rintro ⟨⟩
    assumption
  · exact .capture

theorem repeats_zero : Repeats text a 0 i j <-> i = j := by
  constructor
  · rintro ⟨⟩
    rfl
  · rintro rfl
    exact .zero a i

theorem repeats_succ :
    Repeats text a (n + 1) i k <-> exists j, Matches text a i j ∧ Repeats text a n j k := by
  constructor
  · rintro ⟨⟩
    next j ha hrest => exact ⟨j, ha, hrest⟩
  · rintro ⟨j, ha, hrest⟩
    exact .succ ha hrest

theorem repeats_add {m : Nat} :
    Repeats text a (m + n) i k <-> exists j, Repeats text a m i j ∧ Repeats text a n j k := by
  induction m generalizing i with
  | zero => simp [repeats_zero]
  | succ m ih =>
      rw [Nat.succ_add, repeats_succ]
      simp only [ih, repeats_succ]
      constructor
      · rintro ⟨j, ha, l, hfirst, hlast⟩
        exact ⟨l, ⟨j, ha, hfirst⟩, hlast⟩
      · rintro ⟨l, ⟨j, ha, hfirst⟩, hlast⟩
        exact ⟨j, ha, l, hfirst, hlast⟩

/-!
# Matches go forward and stay in the text
-/

def Forward (text : List Char) (i j : Nat) : Prop :=
  i ≤ j ∧ (i ≤ text.length -> j ≤ text.length)

theorem Forward.refl (text : List Char) (i : Nat) : Forward text i i :=
  ⟨Nat.le_refl i, id⟩

theorem Forward.trans (h : Forward text i j) (h' : Forward text j k) : Forward text i k :=
  ⟨Nat.le_trans h.1 h'.1, h'.2 ∘ h.2⟩

theorem forward_repeats (ha : forall i j, Matches text a i j -> Forward text i j)
    (h : Repeats text a n i j) : Forward text i j := by
  induction n generalizing i with
  | zero =>
      rw [repeats_zero] at h
      subst h
      exact .refl text i
  | succ n ih =>
      rcases repeats_succ.mp h with ⟨l, hfirst, hrest⟩
      exact (ha i l hfirst).trans (ih hrest)

theorem Matches.forward {e : Expr} (h : Matches text e i j) : Forward text i j := by
  induction e generalizing i j with
  | empty =>
      rw [matches_empty] at h
      exact h ▸ .refl text i
  | chars set =>
      rcases matches_chars.mp h with ⟨c, hc, -, rfl⟩
      rcases List.getElem?_eq_some_iff.mp hc with ⟨hi, -⟩
      exact ⟨Nat.le_succ i, fun _ => hi⟩
  | condition cond => exact (matches_condition.mp h).1 ▸ .refl text i
  | seq a b iha ihb =>
      rcases matches_seq.mp h with ⟨l, ha, hb⟩
      exact (iha ha).trans (ihb hb)
  | alt a b iha ihb =>
      rcases matches_alt.mp h with ha | hb
      · exact iha ha
      · exact ihb hb
  | repetition a least most ih =>
      rcases matches_repetition.mp h with ⟨n, -, -, hrounds⟩
      exact forward_repeats (fun _ _ => ih) hrounds
  | capture a ih => exact ih (matches_capture.mp h)

theorem Repeats.forward (h : Repeats text a n i j) : Forward text i j :=
  forward_repeats (fun _ _ => Matches.forward) h

/-!
# Leaving out rounds
-/

theorem repeats_orEmpty :
    Repeats text (.alt .empty a) n i j <-> exists m, m ≤ n ∧ Repeats text a m i j := by
  induction n generalizing i with
  | zero => simp [repeats_zero]
  | succ n ih =>
      simp only [repeats_succ, matches_alt, matches_empty, ih]
      constructor
      · rintro ⟨l, rfl | ha, m, hm, hrest⟩
        · exact ⟨m, Nat.le_succ_of_le hm, hrest⟩
        · exact ⟨m + 1, Nat.succ_le_succ hm, .succ ha hrest⟩
      · rintro ⟨m, hm, hrounds⟩
        cases m with
        | zero =>
            rw [repeats_zero] at hrounds
            exact ⟨i, .inl rfl, 0, Nat.zero_le n, repeats_zero.mpr hrounds⟩
        | succ m =>
            rcases repeats_succ.mp hrounds with ⟨l, ha, hrest⟩
            exact ⟨l, .inr ha, m, Nat.le_of_succ_le_succ hm, hrest⟩

/-- Without the rounds that match nothing there are no more than characters. -/
theorem Repeats.shorten (h : Repeats text a n i j) :
    exists m, m ≤ n ∧ m ≤ j - i ∧ Repeats text a m i j := by
  induction n generalizing i with
  | zero => exact ⟨0, Nat.le_refl 0, Nat.zero_le _, h⟩
  | succ n ih =>
      rcases repeats_succ.mp h with ⟨l, ha, hrest⟩
      rcases ih hrest with ⟨m, hm, hshort, hrounds⟩
      have hfirst := ha.forward.1
      have hlast := hrest.forward.1
      by_cases hmoves : i = l
      · subst hmoves
        exact ⟨m, by omega, hshort, hrounds⟩
      · exact ⟨m + 1, by omega, by omega, .succ ha hrounds⟩

/-!
# Sets of places
-/

theorem bit_add (b : Bool) (n : Nat) : bit b + 2 * n = Nat.bit b n := by
  cases b with
  | false => exact Nat.zero_add _
  | true => exact Nat.add_comm _ _

theorem testBit_placesBefore {set : CharSet} :
    (placesBefore set text).testBit i = true <->
      exists c, text[i]? = some c ∧ set.contains c = true := by
  induction text generalizing i with
  | nil => simp [placesBefore]
  | cons c rest ih =>
      rw [placesBefore, bit_add]
      cases i with
      | zero => simp
      | succ i => rw [Nat.testBit_bit_succ, ih, List.getElem?_cons_succ]

theorem testBit_placesWhere {cond : Condition} {before : Option Char} :
    (placesWhere cond before text).testBit i = true <->
      i ≤ text.length ∧
        cond.holds (if i = 0 then before else text[i - 1]?) text[i]? = true := by
  induction text generalizing i before with
  | nil =>
      rw [placesWhere, ← Nat.add_zero (bit _), ← Nat.mul_zero 2, bit_add]
      cases i with
      | zero => simp
      | succ i => simp [Nat.testBit_bit_succ]
  | cons c rest ih =>
      rw [placesWhere, bit_add]
      cases i with
      | zero => simp
      | succ i =>
          rw [Nat.testBit_bit_succ, ih]
          cases i with
          | zero => simp
          | succ i => simp

def Within (text : List Char) (places : Nat) : Prop :=
  forall i, places.testBit i = true -> i ≤ text.length

namespace Expr

def InOrder : Expr -> Prop
  | empty | chars _ | condition _ => True
  | seq a b | alt a b => a.InOrder ∧ b.InOrder
  | repetition a least most => (forall m, m ∈ most -> least ≤ m) ∧ a.InOrder
  | capture a => a.InOrder

/-- The places that are found are those where a match ends. -/
def IsExact (text : List Char) (e : Expr) : Prop :=
  forall places, Within text places -> forall k,
    (e.ends text places).testBit k = true <->
      exists i, places.testBit i = true ∧ Matches text e i k

theorem IsExact.within {e : Expr} (h : e.IsExact text) {places : Nat}
    (hplaces : Within text places) : Within text (e.ends text places) := by
  intro k hk
  rcases (h places hplaces k).mp hk with ⟨i, hi, hmatch⟩
  exact hmatch.forward.2 (hplaces i hi)

theorem iterate_eq (f : Nat -> Nat) (n places : Nat) : iterate f n places = f^[n] places := by
  induction n generalizing places with
  | zero => rfl
  | succ n ih =>
      rw [iterate, Function.iterate_succ_apply]
      split
      · next hsame => rw [hsame, Function.iterate_fixed hsame]
      · exact ih (f places)

theorem IsExact.iterate (h : a.IsExact text) (n : Nat) {places : Nat}
    (hplaces : Within text places) (k : Nat) :
    (iterate (a.ends text) n places).testBit k = true <->
      exists i, places.testBit i = true ∧ Repeats text a n i k := by
  rw [iterate_eq]
  induction n generalizing places with
  | zero => simp [repeats_zero]
  | succ n ih =>
      rw [Function.iterate_succ_apply, ih (h.within hplaces)]
      simp only [h places hplaces, repeats_succ]
      constructor
      · rintro ⟨j, ⟨i, hi, ha⟩, hrest⟩
        exact ⟨i, hi, j, ha, hrest⟩
      · rintro ⟨i, hi, j, ha, hrest⟩
        exact ⟨j, ⟨i, hi, ha⟩, hrest⟩

theorem IsExact.orEmpty (h : a.IsExact text) : (alt empty a).IsExact text := by
  intro places hplaces k
  simp only [ends, Nat.testBit_or, Bool.or_eq_true, h places hplaces, matches_alt,
    matches_empty]
  constructor
  · rintro (hk | ⟨i, hi, ha⟩)
    · exact ⟨k, hk, .inl rfl⟩
    · exact ⟨i, hi, .inr ha⟩
  · rintro ⟨i, hi, rfl | ha⟩
    · exact .inl hi
    · exact .inr ⟨i, hi, ha⟩

/-- Any number of rounds up to a greatest is as many rounds of which each may be left out. -/
theorem reach_ends (a : Expr) (n places : Nat) :
    reach (a.ends text) n places = Regex.iterate ((alt empty a).ends text) n places := by
  induction n generalizing places with
  | zero => rfl
  | succ n ih =>
      rw [reach, Regex.iterate]
      simp only [ih]
      rfl

theorem IsExact.reach (h : a.IsExact text) (n : Nat) {places : Nat}
    (hplaces : Within text places) (k : Nat) :
    (reach (a.ends text) n places).testBit k = true <->
      exists i, places.testBit i = true ∧ exists m, m ≤ n ∧ Repeats text a m i k := by
  rw [reach_ends, h.orEmpty.iterate n hplaces]
  simp only [repeats_orEmpty]

def furtherRounds (text : List Char) (least : Nat) (most : Option Nat) : Nat :=
  match most with
  | some greatest => min (greatest - least) text.length
  | none => text.length

/-- The rounds beyond the least number may stop at the length of the text. -/
theorem matches_repetition_iff {least : Nat} {most : Option Nat}
    (hmost : forall m, m ∈ most -> least ≤ m) (hi : i ≤ text.length) :
    Matches text (.repetition a least most) i k <->
      exists j, Repeats text a least i j ∧
        exists m, m ≤ furtherRounds text least most ∧ Repeats text a m j k := by
  rw [matches_repetition]
  constructor
  · rintro ⟨n, hleast, hn, hrounds⟩
    rcases Nat.exists_eq_add_of_le hleast with ⟨further, rfl⟩
    rcases repeats_add.mp hrounds with ⟨j, hfirst, hrest⟩
    rcases hrest.shorten with ⟨m, hm, hshort, hrest'⟩
    have hk : k ≤ text.length := hrest.forward.2 (hfirst.forward.2 hi)
    refine ⟨j, hfirst, m, ?_, hrest'⟩
    cases most with
    | none => exact Nat.le_trans hshort (Nat.le_trans (Nat.sub_le _ _) hk)
    | some greatest =>
        have hgreatest := hn greatest rfl
        simp only [furtherRounds]
        omega
  · rintro ⟨j, hfirst, m, hm, hrest⟩
    refine ⟨least + m, Nat.le_add_right _ _, ?_, repeats_add.mpr ⟨j, hfirst, hrest⟩⟩
    rintro greatest hgreatest
    have hleast := hmost greatest hgreatest
    cases hgreatest
    simp only [furtherRounds] at hm
    omega

theorem ends_repetition (a : Expr) (least : Nat) (most : Option Nat) (places : Nat) :
    (repetition a least most).ends text places =
      Regex.reach (a.ends text) (furtherRounds text least most)
        (Regex.iterate (a.ends text) least places) := by
  cases most <;> rfl

-- The induction is on the expression, for all sets of places at once: the second part of a
-- sequence begins where the first has ended.
theorem isExact {e : Expr} (h : e.InOrder) : e.IsExact text := by
  induction e with
  | empty =>
      intro places hplaces k
      simp [ends, matches_empty]
  | chars set =>
      intro places hplaces k
      rw [ends, Nat.testBit_shiftLeft]
      simp only [matches_chars, Nat.testBit_and, Bool.and_eq_true, decide_eq_true_eq,
        testBit_placesBefore]
      constructor
      · rintro ⟨hk, hplace, c, hc, hset⟩
        exact ⟨k - 1, hplace, c, hc, hset, by omega⟩
      · rintro ⟨i, hplace, c, hc, hset, rfl⟩
        exact ⟨Nat.le_add_left 1 i, hplace, c, hc, hset⟩
  | condition cond =>
      intro places hplaces k
      rw [ends, Nat.testBit_and, Bool.and_eq_true, testBit_placesWhere]
      simp only [matches_condition, charBefore]
      constructor
      · rintro ⟨hplace, -, hholds⟩
        exact ⟨k, hplace, rfl, hholds⟩
      · rintro ⟨i, hplace, rfl, hholds⟩
        exact ⟨hplace, hplaces i hplace, hholds⟩
  | seq a b iha ihb =>
      intro places hplaces k
      have ha := iha h.1
      rw [ends, ihb h.2 _ (ha.within hplaces)]
      simp only [ha places hplaces, matches_seq]
      constructor
      · rintro ⟨j, ⟨i, hi, hfirst⟩, hsecond⟩
        exact ⟨i, hi, j, hfirst, hsecond⟩
      · rintro ⟨i, hi, j, hfirst, hsecond⟩
        exact ⟨j, ⟨i, hi, hfirst⟩, hsecond⟩
  | alt a b iha ihb =>
      intro places hplaces k
      rw [ends, Nat.testBit_or, Bool.or_eq_true, iha h.1 places hplaces,
        ihb h.2 places hplaces]
      simp only [matches_alt, and_or_left, exists_or]
  | repetition a least most ih =>
      intro places hplaces k
      have ha := ih h.2
      have hleast : Within text (Regex.iterate (a.ends text) least places) := by
        intro j hj
        rcases (ha.iterate least hplaces j).mp hj with ⟨i, hi, hrounds⟩
        exact hrounds.forward.2 (hplaces i hi)
      rw [ends_repetition, ha.reach _ hleast]
      simp only [ha.iterate least hplaces]
      constructor
      · rintro ⟨j, ⟨i, hi, hfirst⟩, hrest⟩
        exact ⟨i, hi, (matches_repetition_iff h.1 (hplaces i hi)).mpr ⟨j, hfirst, hrest⟩⟩
      · rintro ⟨i, hi, hmatch⟩
        rcases (matches_repetition_iff h.1 (hplaces i hi)).mp hmatch with ⟨j, hfirst, hrest⟩
        exact ⟨j, ⟨i, hi, hfirst⟩, hrest⟩
  | capture a ih =>
      intro places hplaces k
      simp only [ends, ih h places hplaces, matches_capture]

theorem occursIn_iff {e : Expr} (h : e.InOrder) :
    e.occursIn text = true <-> exists i j, i ≤ text.length ∧ Matches text e i j := by
  have hplace (i : Nat) :
      (Nat.pow 2 (text.length + 1) - 1).testBit i = true <-> i ≤ text.length := by
    rw [show Nat.pow 2 (text.length + 1) = 2 ^ (text.length + 1) from rfl,
      Nat.testBit_two_pow_sub_one, decide_eq_true_eq, Nat.lt_succ_iff]
  have hexact := isExact h _ (fun i => (hplace i).mp)
  rw [occursIn, decide_eq_true_eq]
  constructor
  · intro hne
    rcases Nat.exists_testBit_of_ne_zero hne with ⟨j, hj⟩
    rcases (hexact j).mp hj with ⟨i, hi, hmatch⟩
    exact ⟨i, j, (hplace i).mp hi, hmatch⟩
  · rintro ⟨i, j, hi, hmatch⟩ hzero
    have hj := (hexact j).mpr ⟨i, (hplace i).mpr hi, hmatch⟩
    rw [hzero, Nat.zero_testBit] at hj
    cases hj

end Expr
end Regex
end CompileOnLoad
