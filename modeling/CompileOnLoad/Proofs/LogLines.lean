import CompileOnLoad.Log.Ring
import Mathlib.Data.List.Forall2

/-!
# Reading log lines back

A message may be any text, also one that looks like the mark of a span or like another line.
All the same, a line has been written for only one record, up to whole days: the time has a
fixed width, a level and a target end at the first blank after them, and the target of a
record without a span is the one with a colon at its end.
-/

namespace CompileOnLoad
namespace Log

/-!
# The time of day
-/

def millisecondsPerDay : Nat := 24 * 60 * 60 * 1000

def SameTimeOfDay (time other : UInt64) : Prop :=
  time.toNat % millisecondsPerDay = other.toNat % millisecondsPerDay

instance (time other : UInt64) : Decidable (SameTimeOfDay time other) :=
  inferInstanceAs (Decidable (_ = _))

theorem ofDigitChars_twoDigits (n init : Nat) :
    Nat.ofDigitChars 10 (twoDigits n) init = 100 * init + n % 100 := by
  have htens : n / 10 % 10 < 10 := Nat.mod_lt _ (by decide)
  have hunits : n % 10 < 10 := Nat.mod_lt _ (by decide)
  unfold twoDigits
  rw [Nat.ofDigitChars_cons_digitChar_of_lt_ten htens,
    Nat.ofDigitChars_cons_digitChar_of_lt_ten hunits, Nat.ofDigitChars_nil]
  omega

theorem ofDigitChars_threeDigits (n : Nat) :
    Nat.ofDigitChars 10 (threeDigits n) 0 = n % 1000 := by
  have hhundreds : n / 100 % 10 < 10 := Nat.mod_lt _ (by decide)
  unfold threeDigits
  rw [Nat.ofDigitChars_cons_digitChar_of_lt_ten hhundreds, ofDigitChars_twoDigits]
  omega

theorem twoDigits_eq_iff {m n : Nat} : twoDigits m = twoDigits n <-> m % 100 = n % 100 := by
  constructor
  · intro h
    have hread := congrArg (Nat.ofDigitChars 10 · 0) h
    simpa only [ofDigitChars_twoDigits, Nat.mul_zero, Nat.zero_add] using hread
  · intro h
    have htens : m / 10 % 10 = n / 10 % 10 := by omega
    have hunits : m % 10 = n % 10 := by omega
    unfold twoDigits
    rw [htens, hunits]

theorem threeDigits_eq_iff {m n : Nat} :
    threeDigits m = threeDigits n <-> m % 1000 = n % 1000 := by
  constructor
  · intro h
    have hread := congrArg (Nat.ofDigitChars 10 · 0) h
    simpa only [ofDigitChars_threeDigits] using hread
  · intro h
    have hhundreds : m / 100 % 10 = n / 100 % 10 := by omega
    have hrest : m % 100 = n % 100 := by omega
    unfold threeDigits
    rw [hhundreds, twoDigits_eq_iff.mpr hrest]

theorem length_clock (time : UInt64) : (clock time).length = 12 :=
  rfl

theorem clock_eq_iff {time other : UInt64} :
    clock time = clock other <-> SameTimeOfDay time other := by
  unfold SameTimeOfDay millisecondsPerDay
  constructor
  · intro h
    rcases List.append_inj' h rfl with ⟨h, hmilliseconds⟩
    rcases List.append_inj' h rfl with ⟨h, hseconds⟩
    rcases List.append_inj' h rfl with ⟨hhours, hminutes⟩
    have hhours := twoDigits_eq_iff.mp hhours
    have hminutes := twoDigits_eq_iff.mp (List.cons.inj hminutes).2
    have hseconds := twoDigits_eq_iff.mp (List.cons.inj hseconds).2
    have hmilliseconds := threeDigits_eq_iff.mp (List.cons.inj hmilliseconds).2
    omega
  · intro h
    have hhours : time.toNat / 1000 / 3600 % 24 = other.toNat / 1000 / 3600 % 24 := by omega
    have hminutes : time.toNat / 1000 / 60 % 60 = other.toNat / 1000 / 60 % 60 := by omega
    have hseconds : time.toNat / 1000 % 60 = other.toNat / 1000 % 60 := by omega
    have hmilliseconds : time.toNat % 1000 = other.toNat % 1000 := by omega
    simp only [clock, hhours, hminutes, hseconds, hmilliseconds]

/-!
# Lines
-/

theorem eq_of_append_cons {α : Type} {mark : α} {before start after rest : List α}
    (hbefore : mark ∉ before) (hstart : mark ∉ start)
    (h : before ++ mark :: after = start ++ mark :: rest) : before = start ∧
    after = rest := by
  induction before generalizing start with
  | nil =>
      cases start with
      | nil => exact ⟨rfl, (List.cons.inj h).2⟩
      | cons c others =>
          cases (List.cons.inj h).1
          exact absurd List.mem_cons_self hstart
  | cons c others ih =>
      cases start with
      | nil =>
          cases (List.cons.inj h).1
          exact absurd List.mem_cons_self hbefore
      | cons d more =>
          rcases List.cons.inj h with ⟨rfl, htails⟩
          rcases ih (fun hmem => hbefore (List.mem_cons_of_mem _ hmem))
            (fun hmem => hstart (List.mem_cons_of_mem _ hmem)) htails with ⟨rfl, rfl⟩
          exact ⟨rfl, rfl⟩

namespace Record

/-- The target is such as the path of a module: no white space, and no colon at the end.
Only the white space of ASCII matters. -/
structure HasPlainTarget (r : Record) : Prop where
  noBlank : forall c, c ∈ r.target.toList -> c.isWhitespace = false
  noColon : r.target.toList.getLast? ≠ some ':'

/-- The records say the same, and their times differ by whole days. -/
structure AgreesWith (r s : Record) : Prop where
  level : r.level = s.level
  target : r.target = s.target
  span : r.span = s.span
  message : r.message = s.message
  time : SameTimeOfDay r.time s.time

def word (r : Record) : List Char :=
  match r.span with
  | none => r.target.toList ++ [':']
  | some _ => r.target.toList

def remainder (r : Record) : List Char :=
  match r.span with
  | none => r.message.toList
  | some id =>
      "[span=".toList ++ (Nat.toDigits 10 id ++ ']' :: ':' :: ' ' :: r.message.toList)

theorem toList_line (r : Record) :
    r.line.toList =
      '[' :: (clock r.time ++ ']' :: ' ' ::
        (r.level.name.toList ++ ' ' :: (r.word ++ ' ' :: r.remainder))) := by
  unfold line body word remainder spanMark
  cases r.span with
  | none => simp
  | some id => simp [Nat.toString_eq_repr, Nat.toList_repr]

theorem blank_notMem_name (level : Level) : ' ' ∉ level.name.toList := by
  cases level <;> decide

theorem name_inj {level other : Level} (h : level.name = other.name) : level = other := by
  revert h
  cases level <;> cases other <;> decide

theorem HasPlainTarget.blank_notMem_word {r : Record} (h : r.HasPlainTarget) :
    ' ' ∉ r.word := by
  have htarget : ' ' ∉ r.target.toList := by
    intro hmem
    cases h.noBlank ' ' hmem
  unfold word
  cases r.span with
  | none => simp [htarget]
  | some id => exact htarget

theorem notMem_digits {c : Char} (hc : c.isDigit = false) (n : Nat) :
    c ∉ Nat.toDigits 10 n := by
  intro hmem
  have hdigit := Nat.isDigit_of_mem_toDigits (by decide) (by decide) hmem
  rw [hc] at hdigit
  cases hdigit

/-- The word tells whether there is a span, and the remainder which one. -/
theorem HasPlainTarget.eq_of_word {r s : Record} (hr : r.HasPlainTarget)
    (hs : s.HasPlainTarget) (hword : r.word = s.word)
    (hremainder : r.remainder = s.remainder) :
    r.target = s.target ∧ r.span = s.span ∧ r.message = s.message := by
  cases hspan : r.span with
  | none =>
      cases hother : s.span with
      | none =>
          simp only [word, remainder, hspan, hother] at hword hremainder
          exact ⟨String.toList_inj.mp (List.append_cancel_right hword), rfl,
            String.toList_inj.mp hremainder⟩
      | some id =>
          simp only [word, hspan, hother] at hword
          exact absurd (hword ▸ List.getLast?_concat) hs.noColon
  | some id =>
      cases hother : s.span with
      | none =>
          simp only [word, hspan, hother] at hword
          exact absurd (hword ▸ List.getLast?_concat) hr.noColon
      | some number =>
          simp only [word, remainder, hspan, hother] at hword hremainder
          have hbracket := notMem_digits (show (']').isDigit = false by decide)
          rcases eq_of_append_cons (hbracket id) (hbracket number)
            (List.append_cancel_left hremainder) with ⟨hdigits, hmessage⟩
          have hid := congrArg (Nat.ofDigitChars 10 · 0) hdigits
          simp only [Nat.ofDigitChars_ten_toDigits] at hid
          have hmessage := (List.cons.inj (List.cons.inj hmessage).2).2
          exact ⟨String.toList_inj.mp hword, congrArg some hid, String.toList_inj.mp hmessage⟩

/-- The same line is written for records that say the same at the same time of the day. -/
theorem AgreesWith.line_eq {r s : Record} (h : r.AgreesWith s) : r.line = s.line := by
  rcases h with ⟨hlevel, htarget, hspan, hmessage, htime⟩
  unfold line body
  rw [clock_eq_iff.mpr htime, hlevel, htarget, hspan, hmessage]

theorem HasPlainTarget.line_eq_iff {r s : Record} (hr : r.HasPlainTarget)
    (hs : s.HasPlainTarget) : r.line = s.line <-> r.AgreesWith s := by
  refine ⟨fun h => ?_, AgreesWith.line_eq⟩
  have h := congrArg String.toList h
  rw [toList_line, toList_line] at h
  rcases List.append_inj (List.cons.inj h).2 rfl with ⟨hclock, h⟩
  have h := (List.cons.inj (List.cons.inj h).2).2
  rcases eq_of_append_cons (blank_notMem_name r.level) (blank_notMem_name s.level) h
    with ⟨hlevel, h⟩
  rcases eq_of_append_cons hr.blank_notMem_word hs.blank_notMem_word h
    with ⟨hword, hremainder⟩
  rcases hr.eq_of_word hs hword hremainder with ⟨htarget, hspan, hmessage⟩
  exact ⟨name_inj (String.toList_inj.mp hlevel), htarget, hspan, hmessage,
    clock_eq_iff.mp hclock⟩

end Record

/-!
# Rings
-/

/-- All kept records are of plain targets, and each of their messages stands on one line. -/
structure Ring.IsPlain (ring : Ring) : Prop where
  target : forall r, r ∈ ring.records -> r.HasPlainTarget
  message : forall r, r ∈ ring.records -> '\n' ∉ r.message.toList

theorem newline_notMem_clock (time : UInt64) : '\n' ∉ clock time := by
  have hdigit (n : Nat) : '\n' ≠ Nat.digitChar n := (Nat.digitChar_ne '\n' (by decide)).symm
  simp [clock, twoDigits, threeDigits, hdigit]

theorem Record.HasPlainTarget.newline_notMem_line {r : Record} (h : r.HasPlainTarget)
    (hmessage : '\n' ∉ r.message.toList) : '\n' ∉ r.line.toList := by
  have htarget : '\n' ∉ r.target.toList := by
    intro hmem
    cases h.noBlank '\n' hmem
  have hlevel : '\n' ∉ r.level.name.toList := by
    cases r.level <;> decide
  have hdigits := notMem_digits (show ('\n').isDigit = false by decide)
  rw [toList_line]
  unfold word remainder
  cases r.span with
  | none => simp [newline_notMem_clock, hlevel, htarget, hmessage]
  | some id => simp [newline_notMem_clock, hlevel, htarget, hdigits, hmessage]

def linesBack (text : String) : List String :=
  if text = "" then [] else (text.toList.splitOn '\n').map String.ofList

theorem linesBack_intercalate {lines : List String}
    (hfull : forall line, line ∈ lines -> line ≠ "")
    (hline : forall line, line ∈ lines -> '\n' ∉ line.toList) :
    linesBack (String.intercalate "\n" lines) = lines := by
  cases lines with
  | nil => rfl
  | cons first rest =>
      have hfirst : first ≠ "" := hfull first List.mem_cons_self
      have htext : String.intercalate "\n" (first :: rest) ≠ "" := by
        cases rest with
        | nil => simpa using hfirst
        | cons second others => simp [String.intercalate_cons_of_ne_nil]
      have hsplit : List.splitOn '\n' (String.intercalate "\n" (first :: rest)).toList =
          (first :: rest).map String.toList := by
        rw [String.toList_intercalate]
        apply List.splitOn_intercalate
        · intro cs hmem
          rcases List.mem_map.mp hmem with ⟨line, hin, rfl⟩
          exact hline line hin
        · exact List.cons_ne_nil _ _
      unfold linesBack
      rw [if_neg htext, hsplit, List.map_map]
      exact List.map_id'' (fun line => String.ofList_toList) _

theorem line_ne_empty (r : Record) : r.line ≠ "" := by
  intro h
  have h := congrArg String.toList h
  rw [Record.toList_line] at h
  cases h

theorem Ring.IsPlain.linesBack_dump {ring : Ring} (h : ring.IsPlain) :
    linesBack ring.dump = ring.records.map Record.line := by
  apply linesBack_intercalate
  · intro line hmem
    rcases List.mem_map.mp hmem with ⟨r, -, rfl⟩
    exact line_ne_empty r
  · intro line hmem
    rcases List.mem_map.mp hmem with ⟨r, hr, rfl⟩
    exact (h.target r hr).newline_notMem_line (h.message r hr)

theorem Record.map_line_eq_iff {records others : List Record}
    (hrecords : forall r, r ∈ records -> r.HasPlainTarget)
    (hothers : forall s, s ∈ others -> s.HasPlainTarget) :
    records.map line = others.map line <-> List.Forall₂ AgreesWith records others := by
  induction records generalizing others with
  | nil => simp [eq_comm]
  | cons r rest ih =>
      cases others with
      | nil => simp
      | cons s more =>
          rw [List.map_cons, List.map_cons, List.cons.injEq, List.forall₂_cons]
          apply and_congr
          · exact (hrecords r List.mem_cons_self).line_eq_iff (hothers s List.mem_cons_self)
          · apply ih
            · exact fun r hmem => hrecords r (List.mem_cons_of_mem _ hmem)
            · exact fun s hmem => hothers s (List.mem_cons_of_mem _ hmem)

theorem Ring.IsPlain.dump_eq_iff {ring other : Ring} (hring : ring.IsPlain)
    (hother : other.IsPlain) :
    ring.dump = other.dump <->
      ring.records.map Record.line = other.records.map Record.line := by
  refine ⟨fun h => ?_, congrArg (String.intercalate "\n")⟩
  rw [← hring.linesBack_dump, ← hother.linesBack_dump, h]

/-- A line tells all of its record but the day, and the text of a ring tells all of its
records in this sense, if each message stands on one line. -/
theorem lines_determine_records :
    (forall r s : Record, r.HasPlainTarget -> s.HasPlainTarget ->
      (r.line = s.line <-> r.AgreesWith s)) ∧
    forall ring other : Ring, ring.IsPlain -> other.IsPlain ->
      (ring.dump = other.dump <->
        List.Forall₂ Record.AgreesWith ring.records other.records) := by
  constructor
  · intro r s hr hs
    exact hr.line_eq_iff hs
  · intro ring other hring hother
    exact (hring.dump_eq_iff hother).trans (Record.map_line_eq_iff hring.target hother.target)

/-- A record whose message looks like the mark of a span and a message. -/
def deceptive (time : UInt64) (span : Option Nat) : Record :=
  ⟨time, .info, "engine::work", span, "[span=7]: done"⟩

def keeping (r : Record) : Ring := { capacity := 1, records := [r] }

theorem isPlain_keeping_deceptive (time : UInt64) (span : Option Nat) :
    (deceptive time span).HasPlainTarget ∧ (keeping (deceptive time span)).IsPlain := by
  -- Decided on the list: to decide it for all characters would go through all of them.
  have hall : ("engine::work".toList.all fun c => c.isWhitespace = false) = true := by decide
  have hblank (c : Char) (hmem : c ∈ "engine::work".toList) : c.isWhitespace = false :=
    of_decide_eq_true (List.all_eq_true.mp hall c hmem)
  have hcolon : "engine::work".toList.getLast? ≠ some ':' := by decide
  have hline : '\n' ∉ "[span=7]: done".toList := by decide
  have hplain : (deceptive time span).HasPlainTarget := ⟨hblank, hcolon⟩
  refine ⟨hplain, ⟨?_, ?_⟩⟩
  · intro r hr
    cases List.mem_singleton.mp hr
    exact hplain
  · intro r hr
    cases List.mem_singleton.mp hr
    exact hline

/-- A day later the line is the same, and with another span it is not. -/
theorem lines_determine_records_deceptive :
    (keeping (deceptive 1 (some 7))).dump = (keeping (deceptive 86400001 (some 7))).dump ∧
    (deceptive 1 none).line ≠ (deceptive 1 (some 7)).line ∧
    (keeping (deceptive 1 none)).dump ≠ (keeping (deceptive 1 (some 7))).dump := by
  rcases lines_determine_records with ⟨hlines, hrings⟩
  have hplain := isPlain_keeping_deceptive
  refine ⟨?_, ?_, ?_⟩
  · apply (hrings _ _ (hplain _ _).2 (hplain _ _).2).mpr
    exact .cons ⟨rfl, rfl, rfl, rfl, by decide⟩ .nil
  · intro h
    cases ((hlines _ _ (hplain _ _).1 (hplain _ _).1).mp h).span
  · intro h
    cases (hrings _ _ (hplain _ _).2 (hplain _ _).2).mp h with
    | cons hfirst hrest => cases hfirst.span

end Log
end CompileOnLoad
