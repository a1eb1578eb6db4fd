import CompileOnLoad.Proofs.RegexSearch
import Mathlib.Computability.Language

/-!
# Expressions and languages

An expression that does not look at what stands around a match matches the words of a
language, wherever they stand in a text.  Its parts are put together as languages are.
-/

namespace CompileOnLoad

open scoped Computability

theorem CharSet.contains_single {c d : Char} :
    (CharSet.single c).contains d = true <-> d = c := by
  have hiff : d = c <-> d.toNat = c.toNat := ⟨congrArg Char.toNat, Char.toNat_inj.mp⟩
  rw [hiff, CharSet.contains, CharSet.single, CharSet.range]
  simp only [CharSet.isInside, Bool.not_false]
  split
  · next hbelow => simp [Nat.ne_of_lt hbelow]
  · next hbelow =>
      split
      · next habove => simp [show d.toNat = c.toNat by omega]
      · next habove => simp [show d.toNat ≠ c.toNat by omega]

namespace Regex

variable {text : List Char} {i j k : Nat}

/-!
# The stretch between two places
-/

/-- The stretch stands in the text between the two places. -/
def IsBetween (text : List Char) (i j : Nat) (stretch : List Char) : Prop :=
  exists before after, text = before ++ stretch ++ after ∧ before.length = i ∧
    before.length + stretch.length = j

theorem IsBetween.le {stretch : List Char} (h : IsBetween text i j stretch) :
    j ≤ text.length := by
  rcases h with ⟨before, after, rfl, rfl, rfl⟩
  simp

theorem isBetween_nil (hi : i ≤ text.length) : IsBetween text i j [] <-> i = j := by
  constructor
  · rintro ⟨before, after, rfl, rfl, rfl⟩
    rfl
  · rintro rfl
    exact ⟨text.take i, text.drop i, by simp, by simpa using hi, by simpa using hi⟩

theorem isBetween_singleton {c : Char} :
    IsBetween text i j [c] <-> text[i]? = some c ∧ j = i + 1 := by
  constructor
  · rintro ⟨before, after, rfl, rfl, rfl⟩
    simp
  · rintro ⟨hc, rfl⟩
    rcases List.getElem?_eq_some_iff.mp hc with ⟨hi, rfl⟩
    refine ⟨text.take i, text.drop (i + 1), ?_, ?_, ?_⟩
    · simp
    · simp
      omega
    · simp
      omega

theorem isBetween_append {first second : List Char} :
    IsBetween text i k (first ++ second) <->
      exists j, IsBetween text i j first ∧ IsBetween text j k second := by
  constructor
  · rintro ⟨before, after, rfl, rfl, rfl⟩
    refine ⟨before.length + first.length, ⟨before, second ++ after, ?_, rfl, rfl⟩,
      ⟨before ++ first, after, ?_, ?_, ?_⟩⟩
    all_goals simp [Nat.add_assoc]
  · rintro ⟨j, ⟨before, between, htext, rfl, rfl⟩, ⟨before', after, rfl, hlength, rfl⟩⟩
    have hsame : before' = before ++ first := by
      rw [List.append_assoc] at htext
      exact (List.append_inj htext (by simpa using hlength)).1
    subst hsame
    exact ⟨before, after, by simp, rfl, by simp [Nat.add_assoc]⟩

theorem matches_seq_assoc {a b c : Expr} :
    Matches text (.seq a (.seq b c)) i k <-> Matches text (.seq (.seq a b) c) i k := by
  simp only [matches_seq]
  constructor
  · rintro ⟨j, ha, l, hb, hc⟩
    exact ⟨l, ⟨j, ha, hb⟩, hc⟩
  · rintro ⟨l, ⟨j, ha, hb⟩, hc⟩
    exact ⟨j, ha, l, hb, hc⟩

theorem matches_atEnd {a : Expr} (hi : i ≤ text.length) :
    Matches text (.seq a (.condition .textEnd)) i j <->
      j = text.length ∧ Matches text a i j := by
  simp only [matches_seq, matches_condition, Condition.holds, Option.isNone_iff_eq_none,
    List.getElem?_eq_none_iff]
  constructor
  · rintro ⟨_, ha, rfl, hend⟩
    exact ⟨Nat.le_antisymm (ha.forward.2 hi) hend, ha⟩
  · rintro ⟨rfl, ha⟩
    exact ⟨text.length, ha, rfl, Nat.le_refl _⟩

/-!
# Putting expressions together
-/

/-- The expression matches the words of the language, wherever they stand. -/
def Expr.Describes (e : Expr) (words : Language Char) : Prop :=
  forall text i j, i ≤ text.length ->
    (Matches text e i j <-> exists word, word ∈ words ∧ IsBetween text i j word)

theorem mem_singleton {word word' : List Char} :
    word ∈ ({word'} : Language Char) <-> word = word' :=
  Iff.rfl

def oneOf (set : CharSet) : Language Char :=
  fun word => exists c, set.contains c = true ∧ word = [c]

theorem mem_kstar_oneOf {set : CharSet} {word : List Char} :
    word ∈ (oneOf set)∗ <-> forall c, c ∈ word -> set.contains c = true := by
  rw [Language.mem_kstar]
  constructor
  · rintro ⟨words, rfl, hwords⟩ c hc
    rcases List.mem_flatten.mp hc with ⟨word, hword, hc'⟩
    rcases hwords word hword with ⟨d, hset, rfl⟩
    rw [List.mem_singleton.mp hc']
    exact hset
  · intro hset
    refine ⟨word.map fun c => [c], by simp [← List.flatMap_def], ?_⟩
    intro single hsingle
    rcases List.mem_map.mp hsingle with ⟨c, hc, rfl⟩
    exact ⟨c, hset c hc, rfl⟩

theorem mem_oneOrMore_oneOf {set : CharSet} {word : List Char} :
    word ∈ oneOf set * (oneOf set)∗ <->
      word ≠ [] ∧ forall c, c ∈ word -> set.contains c = true := by
  rw [Language.mem_mul]
  constructor
  · rintro ⟨_, ⟨c, hset, rfl⟩, rest, hrest, rfl⟩
    refine ⟨List.cons_ne_nil c rest, ?_⟩
    intro d hd
    rcases List.mem_cons.mp hd with rfl | hd
    · exact hset
    · exact mem_kstar_oneOf.mp hrest d hd
  · rintro ⟨hne, hset⟩
    cases word with
    | nil => exact absurd rfl hne
    | cons c rest =>
        refine ⟨[c], ⟨c, hset c (List.mem_cons_self ..), rfl⟩, rest, ?_, rfl⟩
        exact mem_kstar_oneOf.mpr fun d hd => hset d (List.mem_cons_of_mem c hd)

theorem mem_oneOrMore {words : Language Char} {word : List Char} :
    word ∈ words * words∗ <-> exists parts : List (List Char),
      parts ≠ [] ∧ (forall part, part ∈ parts -> part ∈ words) ∧ word = parts.flatten := by
  rw [Language.mem_mul]
  constructor
  · rintro ⟨first, hfirst, rest, hrest, rfl⟩
    rcases Language.mem_kstar.mp hrest with ⟨parts, rfl, hparts⟩
    refine ⟨first :: parts, List.cons_ne_nil first parts, ?_, rfl⟩
    exact List.forall_mem_cons.mpr ⟨hfirst, hparts⟩
  · rintro ⟨parts, hne, hparts, rfl⟩
    cases parts with
    | nil => exact absurd rfl hne
    | cons first parts =>
        rcases List.forall_mem_cons.mp hparts with ⟨hfirst, hrest⟩
        exact ⟨first, hfirst, parts.flatten, Language.mem_kstar.mpr ⟨parts, rfl, hrest⟩, rfl⟩

namespace Expr

variable {a b : Expr} {words more : Language Char}

theorem describes_chars (set : CharSet) : (chars set).Describes (oneOf set) := by
  intro text i j hi
  rw [matches_chars]
  constructor
  · rintro ⟨c, hc, hset, hj⟩
    exact ⟨[c], ⟨c, hset, rfl⟩, isBetween_singleton.mpr ⟨hc, hj⟩⟩
  · rintro ⟨_, ⟨c, hset, rfl⟩, hbetween⟩
    rcases isBetween_singleton.mp hbetween with ⟨hc, hj⟩
    exact ⟨c, hc, hset, hj⟩

theorem Describes.seq (ha : a.Describes words) (hb : b.Describes more) :
    (seq a b).Describes (words * more) := by
  intro text i k hi
  rw [matches_seq]
  constructor
  · rintro ⟨j, hfirst, hsecond⟩
    rcases (ha text i j hi).mp hfirst with ⟨first, hwords, hbetween⟩
    rcases (hb text j k hbetween.le).mp hsecond with ⟨second, hmore, hbetween'⟩
    exact ⟨first ++ second, Language.append_mem_mul hwords hmore,
      isBetween_append.mpr ⟨j, hbetween, hbetween'⟩⟩
  · rintro ⟨_, hword, hbetween⟩
    rcases Language.mem_mul.mp hword with ⟨first, hwords, second, hmore, rfl⟩
    rcases isBetween_append.mp hbetween with ⟨j, hfirst, hsecond⟩
    exact ⟨j, (ha text i j hi).mpr ⟨first, hwords, hfirst⟩,
      (hb text j k hfirst.le).mpr ⟨second, hmore, hsecond⟩⟩

theorem Describes.alt (ha : a.Describes words) (hb : b.Describes more) :
    (alt a b).Describes (words + more) := by
  intro text i j hi
  rw [matches_alt, ha text i j hi, hb text i j hi]
  simp only [Language.mem_add, or_and_right, exists_or]

theorem Describes.repeats (ha : a.Describes words) (n : Nat) (hi : i ≤ text.length) :
    Repeats text a n i k <-> exists word, word ∈ words ^ n ∧ IsBetween text i k word := by
  induction n generalizing i with
  | zero =>
      simp only [repeats_zero, pow_zero, Language.mem_one, exists_eq_left]
      exact (isBetween_nil hi).symm
  | succ n ih =>
      rw [repeats_succ, pow_succ']
      constructor
      · rintro ⟨j, hfirst, hrest⟩
        rcases (ha text i j hi).mp hfirst with ⟨first, hwords, hbetween⟩
        rcases (ih hbetween.le).mp hrest with ⟨rest, hmore, hbetween'⟩
        exact ⟨first ++ rest, Language.append_mem_mul hwords hmore,
          isBetween_append.mpr ⟨j, hbetween, hbetween'⟩⟩
      · rintro ⟨_, hword, hbetween⟩
        rcases Language.mem_mul.mp hword with ⟨first, hwords, rest, hmore, rfl⟩
        rcases isBetween_append.mp hbetween with ⟨j, hfirst, hrest⟩
        exact ⟨j, (ha text i j hi).mpr ⟨first, hwords, hfirst⟩,
          (ih hfirst.le).mpr ⟨rest, hmore, hrest⟩⟩

theorem Describes.oneOrMore (ha : a.Describes words) :
    (repetition a 1 none).Describes (words * words∗) := by
  intro text i j hi
  rw [matches_repetition]
  simp only [ha.repeats _ hi]
  constructor
  · rintro ⟨n, hn, -, word, hword, hbetween⟩
    cases n with
    | zero => omega
    | succ n =>
        rw [pow_succ'] at hword
        rcases Language.mem_mul.mp hword with ⟨first, hfirst, rest, hrest, rfl⟩
        have hstar : rest ∈ words∗ := by
          rw [Language.kstar_eq_iSup_pow, Language.mem_iSup]
          exact ⟨n, hrest⟩
        exact ⟨first ++ rest, Language.append_mem_mul hfirst hstar, hbetween⟩
  · rintro ⟨word, hword, hbetween⟩
    rcases Language.mem_mul.mp hword with ⟨first, hfirst, rest, hrest, rfl⟩
    rw [Language.kstar_eq_iSup_pow, Language.mem_iSup] at hrest
    rcases hrest with ⟨n, hrest⟩
    refine ⟨n + 1, Nat.le_add_left 1 n, nofun, first ++ rest, ?_, hbetween⟩
    rw [pow_succ']
    exact Language.append_mem_mul hfirst hrest

def ofWord : List Char -> Expr
  | [] => empty
  | [c] => chars (.single c)
  | c :: rest => seq (chars (.single c)) (ofWord rest)

theorem describes_single (c : Char) : (chars (.single c)).Describes {[c]} := by
  have hwords : oneOf (.single c) = {[c]} := by
    ext word
    constructor
    · rintro ⟨d, hd, rfl⟩
      rw [CharSet.contains_single.mp hd]
      rfl
    · rintro rfl
      exact ⟨c, CharSet.contains_single.mpr rfl, rfl⟩
  exact hwords ▸ describes_chars (.single c)

theorem describes_empty : empty.Describes 1 := by
  intro text i j hi
  simp only [matches_empty, Language.mem_one, exists_eq_left]
  exact (isBetween_nil hi).symm

theorem describes_ofWord (word : List Char) : (ofWord word).Describes {word} := by
  fun_induction ofWord word with
  | case1 => exact describes_empty
  | case2 c => exact describes_single c
  | case3 c rest _ ih =>
      have hword : ({[c]} : Language Char) * {rest} = {c :: rest} := by
        ext word
        simp only [Language.mem_mul, mem_singleton, exists_eq_left]
        exact eq_comm
      exact hword ▸ (describes_single c).seq ih

end Expr
end Regex
end CompileOnLoad
