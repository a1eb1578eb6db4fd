import CompileOnLoad.Json.Lexical
import CompileOnLoad.Json.Value

/-!
# Reading JSON texts

Readers pass over white space, and what is written for a value ends where the value does.
So a reader is said to read a written value if it does so after any white space and whatever
follows it.
-/

namespace CompileOnLoad
namespace Json

variable {α β : Type}

/-!
# White space
-/

def IsGap (gap : List Char) : Prop :=
  forall c, c ∈ gap -> isSpace c

theorem isGap_nil : IsGap [] := by
  intro c hc
  cases hc

theorem IsGap.append {gap gap' : List Char} (h : IsGap gap) (h' : IsGap gap') :
    IsGap (gap ++ gap') := by
  intro c hc
  rcases List.mem_append.mp hc with hc | hc
  · exact h c hc
  · exact h' c hc

theorem isGap_space : IsGap [' '] := by
  intro c hc
  rw [List.mem_singleton.mp hc]
  rfl

theorem isGap_newLine (level : Nat) : IsGap (newLine level) := by
  intro c hc
  rcases List.mem_cons.mp hc with rfl | hc
  · rfl
  · rw [List.eq_of_mem_replicate hc]
    rfl

theorem skipSpace_gap {gap : List Char} (hgap : IsGap gap) (cs : List Char) :
    skipSpace (gap ++ cs) = skipSpace cs :=
  List.dropWhile_append_of_pos hgap

theorem skipSpace_visible {c : Char} (hc : isSpace c = false) (cs : List Char) :
    skipSpace (c :: cs) = c :: cs :=
  List.dropWhile_cons_of_neg (by simp [hc])

theorem skipSpace_gap_visible {gap : List Char} (hgap : IsGap gap) {c : Char}
    (hc : isSpace c = false) (cs : List Char) : skipSpace (gap ++ c :: cs) = c :: cs := by
  rw [skipSpace_gap hgap, skipSpace_visible hc]

/-- The reader gets the value from what is written, after any white space and whatever
follows. -/
def Reads (read : List Char -> Reading α) (written : List Char) (a : α) : Prop :=
  forall gap rest, IsGap gap -> read (gap ++ written ++ rest) = .ok (a, rest)

theorem Reads.map {read : List Char -> Reading α} {written : List Char} {a : α}
    (h : Reads read written a) (f : α -> β) :
    Reads (fun cs => (read cs).map fun (a, rest) => (f a, rest)) written (f a) := by
  intro gap rest hgap
  simp only [h gap rest hgap]
  rfl

/-!
# Words
-/

theorem readWord_append (word rest : List Char) :
    readWord word (word ++ rest) = .ok ((), rest) := by
  induction word with
  | nil => rfl
  | cons c word ih =>
      rw [List.cons_append, readWord, if_pos rfl]
      exact ih

theorem reads_boolean (b : Bool) : Reads readBoolean (writeBoolean b) b := by
  intro gap rest hgap
  rw [List.append_assoc, readBoolean]
  cases b with
  | true =>
      rw [show writeBoolean true ++ rest = 't' :: (['r', 'u', 'e'] ++ rest) from rfl,
        skipSpace_gap_visible hgap rfl]
      simp only [readWord_append]
      rfl
  | false =>
      rw [show writeBoolean false ++ rest = 'f' :: (['a', 'l', 's', 'e'] ++ rest) from rfl,
        skipSpace_gap_visible hgap rfl]
      simp only [readWord_append]
      rfl

theorem reads_null (read : List Char -> Reading α) :
    Reads (readOptional read) writeNull none := by
  intro gap rest hgap
  rw [List.append_assoc, readOptional,
    show writeNull ++ rest = 'n' :: (['u', 'l', 'l'] ++ rest) from rfl,
    skipSpace_gap_visible hgap rfl]
  simp only [readWord_append]
  rfl

/-- A value whose text does not begin like `null` is read as one that is not left out. -/
theorem Reads.optional {read : List Char -> Reading α} {c : Char}
    {written : List Char} {a : α}
    (h : Reads read (c :: written) a) (hc : isSpace c = false) (hnull : c ≠ 'n') :
    Reads (readOptional read) (c :: written) (some a) := by
  intro gap rest hgap
  have hread : read (c :: written ++ rest) = .ok (a, rest) := h [] rest isGap_nil
  rw [List.append_assoc, readOptional, List.cons_append, skipSpace_gap_visible hgap hc]
  split
  · next heq =>
      cases heq
      exact absurd rfl hnull
  · rw [← List.cons_append, hread]
    rfl

/-!
# Texts
-/

theorem readText_quote (rest : List Char) : readText ('"' :: rest) = .ok ([], rest) := by
  rw [readText]

theorem readText_escape {cs rest text after : List Char} {c : Char}
    (hc : readEscape cs = .ok (c, rest)) (htext : readText rest = .ok (text, after)) :
    readText ('\\' :: cs) = .ok (c :: text, after) := by
  rw [readText]
  split
  · next h =>
      rw [hc] at h
      cases h
  · next h =>
      rw [hc] at h
      cases h
      simp only [htext]

theorem readText_plain {c : Char} {rest text after : List Char} (hquote : c ≠ '"')
    (hbackslash : c ≠ '\\') (hcontrol : ¬c < ' ')
    (htext : readText rest = .ok (text, after)) :
    readText (c :: rest) = .ok (c :: text, after) := by
  rw [readText]
  · rw [if_neg hcontrol, htext]
  · exact hquote
  · exact hbackslash

/-!
# Lists of texts
-/

theorem nextItem_finished {gap : List Char} (hgap : IsGap gap) (first : Bool)
    (rest : List Char) : nextItem first (gap ++ ']' :: rest) = .ok (.finished rest) := by
  rw [nextItem, skipSpace_gap_visible hgap rfl]
  rfl

theorem readItems_eq (expected : String) (first : Bool) (cs : List Char) :
    readItems expected first cs =
      match nextItem first cs with
      | .error fault => .error fault
      | .ok (.finished rest) => .ok ([], rest)
      | .ok (.item item) =>
        match readTextValue expected item with
        | .error fault => .error fault
        | .ok (text, rest) =>
          (readItems expected false rest).map fun (texts, after) =>
            (text :: texts, after) := by
  rw [readItems]
  split
  · next h => simp only [h]
  · next h => simp only [h]
  · next h =>
      simp only [h]
      split
      · next hitem => simp only [hitem]
      · next hitem =>
          simp only [hitem]
          cases readItems expected false _ with
          | error fault => rfl
          | ok read => rfl

theorem readItems_finished {expected : String} {first : Bool} {cs rest : List Char}
    (h : nextItem first cs = .ok (.finished rest)) :
    readItems expected first cs = .ok ([], rest) := by
  rw [readItems_eq, h]

theorem readItems_item {expected : String} {first : Bool}
    {cs item text rest after : List Char}
    {texts : List (List Char)} (h : nextItem first cs = .ok (.item item))
    (htext : readTextValue expected item = .ok (text, rest))
    (hmore : readItems expected false rest = .ok (texts, after)) :
    readItems expected first cs = .ok (text :: texts, after) := by
  rw [readItems_eq, h]
  simp only [htext, hmore]
  rfl

end Json
end CompileOnLoad
