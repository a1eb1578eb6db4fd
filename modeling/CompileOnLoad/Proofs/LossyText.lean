import CompileOnLoad.Proofs.Judging
import CompileOnLoad.Proofs.Utf8

/-!
# Text with replacement characters

Bytes that are not UTF-8 are shown with a replacement character for each stretch that is
invalid.  Such a stretch is as long as it can be: it begins the encoding of a character
and goes as far as this does, or it is a byte that begins none.  This determines the text.

No encoding of a character reaches over the first byte of another.  So whatever stands
before a text, also a character that breaks off, leaves the text as it is, and whether a
path ends with a suffix can be seen from its bytes.
-/

namespace CompileOnLoad
namespace Utf8

/-- The bytes are the first ones, or all, of a character. -/
def Begins (bytes : List UInt8) : Prop :=
  exists c, bytes <+: String.utf8EncodeChar c

/-- No character stands at the start of the stretch and the rest, and the stretch goes as
far as a character is begun, or one byte where none is. -/
structure IsInvalidStretch (stretch rest : List UInt8) : Prop where
  nonempty : stretch ≠ []
  broken : forall c, ¬ String.utf8EncodeChar c <+: stretch ++ rest
  begins : Begins stretch ∨ stretch.length = 1
  longest : forall longer, longer <+: stretch ++ rest ->
    stretch.length < longer.length -> ¬ Begins longer

/-- The text shows the bytes: each character as it is, and each invalid stretch as one
replacement character. -/
inductive ShownAs : List UInt8 -> List Char -> Prop where
  | nil : ShownAs [] []
  | char (c : Char) {bytes : List UInt8} {cs : List Char} (later : ShownAs bytes cs) :
      ShownAs (String.utf8EncodeChar c ++ bytes) (c :: cs)
  | invalid {stretch bytes : List UInt8} {cs : List Char}
      (broken : IsInvalidStretch stretch bytes) (later : ShownAs bytes cs) :
      ShownAs (stretch ++ bytes) ('\uFFFD' :: cs)

theorem Begins.of_initial {bytes longer : List UInt8} (h : Begins longer)
    (hinitial : bytes <+: longer) : Begins bytes := by
  rcases h with ⟨c, hc⟩
  exact ⟨c, hinitial.trans hc⟩

/-- It is enough that the next byte does not go on with what the stretch begins. -/
theorem isInvalidStretch_of_next {stretch rest : List UInt8} (hnonempty : stretch ≠ [])
    (hbroken : forall c, ¬ String.utf8EncodeChar c <+: stretch ++ rest)
    (hbegins : Begins stretch ∨ stretch.length = 1)
    (hnext : forall b more, rest = b :: more -> ¬ Begins (stretch ++ [b])) :
    IsInvalidStretch stretch rest where
  nonempty := hnonempty
  broken := hbroken
  begins := hbegins
  longest := by
    intro longer hinitial hlength hlonger
    rcases List.prefix_of_prefix_length_le (List.prefix_append _ _) hinitial
      (Nat.le_of_lt hlength) with ⟨more, rfl⟩
    cases more with
    | nil => simp at hlength
    | cons b more =>
        rcases (List.prefix_append_right_inj stretch).mp hinitial with ⟨later, rfl⟩
        apply hnext b (more ++ later) rfl
        exact hlonger.of_initial ((List.prefix_append_right_inj stretch).mpr ⟨more, rfl⟩)

/-!
# Reading shows the text
-/

theorem read_other {u : Unfinished} {b : UInt8} (hb : ¬ (u.low ≤ b ∧ b ≤ u.high))
    (rest : List UInt8) :
    read (some u) (b :: rest) = .invalid u.bytes :: read none (b :: rest) := by
  rw [read, read]
  simp only [if_neg hb]

theorem not_prefix_of_read {bytes stretch : List UInt8} {pieces : List Piece}
    (h : read none bytes = .invalid stretch :: pieces) (c : Char) :
    ¬ String.utf8EncodeChar c <+: bytes := by
  rintro ⟨rest, rfl⟩
  rw [read_encodeChar] at h
  cases h

namespace Unfinished

variable {u : Unfinished} {b : UInt8}

def IsReached (u : Unfinished) : Prop :=
  forall rest, read none (u.bytes ++ rest) = read (some u) rest

theorem isReached_lead (h : lead? b = some u) : u.IsReached := by
  intro rest
  rw [bytes_lead h]
  exact read_lead h rest

theorem IsReached.push (h : u.IsReached) (hb : u.low ≤ b ∧ b ≤ u.high) (howed : u.owed ≠ 1) :
    (u.push b).IsReached := by
  intro rest
  rw [← read_push hb howed, ← h (b :: rest), Unfinished.push, List.append_assoc]
  rfl

theorem IsReached.bytes_ne_nil (h : u.IsReached) : u.bytes ≠ [] := by
  intro hnil
  have hread := h []
  rw [hnil] at hread
  cases hread

theorem IsReached.in_range (h : u.IsReached) (hbegins : Begins (u.bytes ++ [b])) :
    u.low ≤ b ∧ b ≤ u.high := by
  rcases hbegins with ⟨c, more, hc⟩
  apply Classical.byContradiction
  intro hb
  have hread := h (b :: more)
  rw [read_other hb] at hread
  apply not_prefix_of_read hread c
  rw [← hc, List.append_assoc]
  exact List.prefix_refl _

theorem range_push (u : Unfinished) (b : UInt8) : (u.push b).low ≤ (u.push b).high :=
  show (0x80 : UInt8) ≤ 0xBF by decide

theorem range_lead (h : lead? b = some u) : u.low ≤ u.high := by
  revert h
  fun_cases lead? b <;> rintro ⟨⟩ <;> simp

theorem IsSound.begins {owed : Nat} (hsound : u.IsSound owed) (hrange : u.low ≤ u.high) :
    Begins u.bytes := by
  induction owed generalizing u with
  | zero => exact hsound.elim
  | succ owed ih =>
      cases owed with
      | zero =>
          have hlast := hsound u.low ⟨UInt8.le_refl _, hrange⟩
          exact ⟨_, [u.low], hlast.symm⟩
      | succ owed =>
          have hpush : Begins (u.push u.low).bytes :=
            ih (hsound u.low ⟨UInt8.le_refl _, hrange⟩) (range_push u u.low)
          exact hpush.of_initial (List.prefix_append _ _)

theorem IsReached.isInvalidStretch (h : u.IsReached) (hbegins : Begins u.bytes)
    (rest : List UInt8)
    (hrest : forall b more, rest = b :: more -> ¬ (u.low ≤ b ∧ b ≤ u.high)) :
    IsInvalidStretch u.bytes rest := by
  apply isInvalidStretch_of_next h.bytes_ne_nil _ (.inl hbegins)
  · intro b more hnext hlonger
    exact hrest b more hnext (h.in_range hlonger)
  · have hread := h rest
    cases rest with
    | nil => exact not_prefix_of_read hread
    | cons b more =>
        rw [read_other (hrest b more rfl)] at hread
        exact not_prefix_of_read hread

end Unfinished

-- The induction is on the bytes that follow.  What is shown of shorter ones is given, since
-- reading starts afresh behind the character, or where it breaks off.
theorem shownAs_read_some {u : Unfinished} {owed : Nat} (hreached : u.IsReached)
    (hsound : u.IsSound owed) (howed : u.owed = owed) (hrange : u.low ≤ u.high)
    {bytes : List UInt8} (hlater : forall rest, rest.length ≤ bytes.length ->
      ShownAs rest ((read none rest).map Piece.shown)) :
    ShownAs (u.bytes ++ bytes) ((read (some u) bytes).map Piece.shown) := by
  induction bytes generalizing u owed with
  | nil =>
      have hstretch := hreached.isInvalidStretch (hsound.begins hrange) [] nofun
      exact .invalid hstretch .nil
  | cons b rest ih =>
      by_cases hb : u.low ≤ b ∧ b ≤ u.high
      · have hassoc : u.bytes ++ b :: rest = (u.push b).bytes ++ rest :=
          List.append_cons u.bytes b rest
        have hshorter : forall later : List UInt8, later.length ≤ rest.length ->
            ShownAs later ((read none later).map Piece.shown) := fun later h =>
          hlater later (Nat.le_succ_of_le h)
        match owed, hsound with
        | 1, hsound =>
            rw [read_last hb howed, hassoc, show (u.push b).bytes = u.bytes ++ [b] from rfl,
              ← hsound b hb]
            exact .char _ (hshorter rest (Nat.le_refl _))
        | owed + 2, hsound =>
            have hne : u.owed ≠ 1 := by omega
            rw [read_push hb hne, hassoc]
            apply ih (hreached.push hb hne) (hsound b hb) _ (u.range_push b) hshorter
            simp only [Unfinished.push, howed]
            omega
      · have hstretch := hreached.isInvalidStretch (hsound.begins hrange) (b :: rest)
          (by rintro _ _ ⟨⟩; exact hb)
        rw [read_other hb]
        exact .invalid hstretch (hlater (b :: rest) (Nat.le_refl _))

theorem shownAs_shown (bytes : List UInt8) : ShownAs bytes (shown bytes) := by
  unfold shown pieces
  induction hn : bytes.length using Nat.strongRecOn generalizing bytes with
  | _ n ih =>
      subst hn
      cases bytes with
      | nil => exact .nil
      | cons b rest =>
          have hlater : forall later : List UInt8, later.length ≤ rest.length ->
              ShownAs later ((read none later).map Piece.shown) := fun later h =>
            ih later.length (Nat.lt_succ_of_le h) later rfl
          cases hlead : lead? b with
          | some u =>
              have hread := shownAs_read_some (Unfinished.isReached_lead hlead)
                (isSound_lead hlead) rfl (Unfinished.range_lead hlead) hlater
              rw [bytes_lead hlead] at hread
              rw [read_lead hlead]
              exact hread
          | none =>
              by_cases hb : b < 0x80
              · have hread : read none (b :: rest) =
                    .char (Char.ofNat b.toNat) :: read none rest := by
                  rw [read]
                  simp only [if_pos hb]
                rw [hread, show b :: rest = [b] ++ rest from rfl, ← encodeChar_one hb]
                exact .char _ (hlater rest (Nat.le_refl _))
              · have hread (more : List UInt8) :
                    read none (b :: more) = .invalid [b] :: read none more := by
                  rw [read]
                  simp only [if_neg hb, hlead]
                have hstretch : IsInvalidStretch [b] rest := by
                  apply isInvalidStretch_of_next (List.cons_ne_nil b []) _ (.inr rfl)
                  · rintro b' more - ⟨c, later, hc⟩
                    apply not_prefix_of_read (hread (b' :: later)) c
                    rw [← hc]
                    exact List.prefix_refl _
                  · exact not_prefix_of_read (hread rest)
                rw [hread]
                exact .invalid hstretch (hlater rest (Nat.le_refl _))

/-!
# One text for all bytes
-/

theorem IsInvalidStretch.length_le {stretch rest stretch' rest' : List UInt8}
    (h : IsInvalidStretch stretch rest) (h' : IsInvalidStretch stretch' rest')
    (hsame : stretch ++ rest = stretch' ++ rest') : stretch'.length ≤ stretch.length := by
  apply Nat.le_of_not_lt
  intro hlonger
  have hpositive := List.length_pos_iff.mpr h.nonempty
  rcases h'.begins with hbegins | hone
  · apply h.longest stretch' _ hlonger hbegins
    rw [hsame]
    exact List.prefix_append _ _
  · omega

theorem ShownAs.eq_shown {bytes : List UInt8} {cs : List Char} (h : ShownAs bytes cs) :
    cs = shown bytes := by
  have hshown := shownAs_shown bytes
  revert hshown
  generalize shown bytes = cs'
  induction h generalizing cs' with
  | nil =>
      generalize hbytes : ([] : List UInt8) = bytes
      rintro (_ | @⟨c, bytes, cs, later⟩ | @⟨stretch, bytes, cs, broken, later⟩)
      · rfl
      · have hread := read_encodeChar c bytes
        rw [← hbytes] at hread
        cases hread
      · exact absurd (List.append_eq_nil_iff.mp hbytes.symm).1 broken.nonempty
  | @char c bytes cs later ih =>
      generalize hbytes : String.utf8EncodeChar c ++ bytes = bytes'
      rintro (_ | @⟨c', rest, cs', later'⟩ | @⟨stretch, rest, cs', broken, later'⟩)
      · have hread := read_encodeChar c bytes
        rw [hbytes] at hread
        cases hread
      · have hread := read_encodeChar c' rest
        rw [← hbytes, read_encodeChar] at hread
        obtain rfl : c = c' := Piece.char.inj (List.cons.inj hread).1
        rw [List.append_cancel_left hbytes] at ih
        exact congrArg (c :: ·) (ih cs' later')
      · apply absurd _ (broken.broken c)
        rw [← hbytes]
        exact List.prefix_append _ _
  | @invalid stretch bytes cs broken later ih =>
      generalize hbytes : stretch ++ bytes = bytes'
      rintro (_ | @⟨c, rest, cs', later'⟩ | @⟨stretch', rest, cs', broken', later'⟩)
      · exact absurd (List.append_eq_nil_iff.mp hbytes).1 broken.nonempty
      · apply absurd _ (broken.broken c)
        rw [hbytes]
        exact List.prefix_append _ _
      · have hlength := Nat.le_antisymm (broken'.length_le broken hbytes.symm)
          (broken.length_le broken' hbytes)
        rcases List.append_inj hbytes hlength with ⟨-, hrest⟩
        rw [hrest] at ih
        exact congrArg ('\uFFFD' :: ·) (ih cs' later')

theorem shownAs_iff {bytes : List UInt8} {cs : List Char} :
    ShownAs bytes cs <-> cs = shown bytes := by
  constructor
  · exact ShownAs.eq_shown
  · rintro rfl
    exact shownAs_shown bytes

/-!
# What is shown of a text behind other bytes
-/

/-- The bytes do not go on with a character: there are none, or the first is the first one
of a character. -/
def StartsAfresh (bytes : List UInt8) : Prop :=
  forall b, bytes.head? = some b -> b.IsUTF8FirstByte

theorem startsAfresh_encode (cs : List Char) : StartsAfresh (encode cs) := by
  intro b hb
  cases cs with
  | nil => cases hb
  | cons c cs =>
      have hpositive : 0 < (String.utf8EncodeChar c).length := by
        rw [String.length_utf8EncodeChar]
        exact c.utf8Size_pos
      rw [encode, List.flatMap_cons, List.head?_eq_getElem?,
        List.getElem?_append_left hpositive, List.getElem?_eq_getElem hpositive] at hb
      cases hb
      exact UInt8.isUTF8FirstByte_getElem_utf8EncodeChar.mpr rfl

theorem Begins.prefix_left {bytes before more : List UInt8} (h : Begins bytes)
    (hinitial : bytes <+: before ++ more) (hbefore : before ≠ [])
    (hmore : StartsAfresh more) : bytes <+: before := by
  by_cases hshort : bytes.length ≤ before.length
  · exact List.prefix_of_prefix_length_le hinitial (List.prefix_append _ _) hshort
  · have hlong : before.length < bytes.length := Nat.lt_of_not_le hshort
    rcases List.prefix_of_prefix_length_le (List.prefix_append _ _) hinitial
      (Nat.le_of_lt hlong) with ⟨reached, rfl⟩
    rcases h with ⟨c, later, hc⟩
    cases reached with
    | nil => simp at hlong
    | cons b reached =>
        rcases (List.prefix_append_right_inj before).mp hinitial with ⟨rest, rfl⟩
        have hlength : before.length < (String.utf8EncodeChar c).length := by
          rw [← hc]
          simp
        have hb : (String.utf8EncodeChar c)[before.length] = b := by
          simp [← hc]
        have hfirst := hmore b rfl
        rw [← hb, UInt8.isUTF8FirstByte_getElem_utf8EncodeChar] at hfirst
        exact absurd (List.length_eq_zero_iff.mp hfirst) hbefore

theorem IsInvalidStretch.append {stretch rest more : List UInt8}
    (h : IsInvalidStretch stretch rest) (hmore : StartsAfresh more) :
    IsInvalidStretch stretch (rest ++ more) where
  nonempty := h.nonempty
  begins := h.begins
  broken := by
    intro c hc
    rw [← List.append_assoc] at hc
    have hwhole : Begins (String.utf8EncodeChar c) := ⟨c, List.prefix_refl _⟩
    exact h.broken c (hwhole.prefix_left hc (by simp [h.nonempty]) hmore)
  longest := by
    intro longer hinitial hlength hbegins
    rw [← List.append_assoc] at hinitial
    exact h.longest longer (hbegins.prefix_left hinitial (by simp [h.nonempty]) hmore) hlength
      hbegins

theorem ShownAs.append {bytes more : List UInt8} {cs cs' : List Char} (h : ShownAs bytes cs)
    (h' : ShownAs more cs') (hmore : StartsAfresh more) :
    ShownAs (bytes ++ more) (cs ++ cs') := by
  induction h with
  | nil => exact h'
  | char c later ih =>
      rw [List.append_assoc]
      exact .char c ih
  | invalid broken later ih =>
      rw [List.append_assoc]
      exact .invalid (broken.append hmore) ih

theorem shownAs_encode (cs : List Char) : ShownAs (encode cs) cs := by
  induction cs with
  | nil => exact .nil
  | cons c cs ih => exact .char c ih

theorem shown_append_encode (bytes : List UInt8) (cs : List Char) :
    shown (bytes ++ encode cs) = shown bytes ++ cs :=
  ((shownAs_shown bytes).append (shownAs_encode cs) (startsAfresh_encode cs)).eq_shown.symm

/-!
# The end of the bytes and the end of the text
-/

theorem ShownAs.eq_encode {bytes : List UInt8} {cs : List Char} (h : ShownAs bytes cs)
    (hcs : '\uFFFD' ∉ cs) : bytes = encode cs := by
  induction h with
  | nil => rfl
  | char c later ih =>
      rw [ih (List.not_mem_of_not_mem_cons hcs), encode, encode, List.flatMap_cons]
  | invalid broken later ih => exact absurd (List.mem_cons_self ..) hcs

theorem ShownAs.suffix_encode {bytes : List UInt8} {before cs : List Char}
    (h : ShownAs bytes (before ++ cs)) (hcs : '\uFFFD' ∉ cs) : encode cs <:+ bytes := by
  induction before generalizing bytes with
  | nil => exact (h.eq_encode hcs) ▸ List.suffix_refl _
  | cons c before ih =>
      cases h with
      | char c later => exact (ih later).trans (List.suffix_append _ _)
      | invalid broken later => exact (ih later).trans (List.suffix_append _ _)

theorem suffix_shown_iff {bytes : List UInt8} {cs : List Char} (hcs : '\uFFFD' ∉ cs) :
    cs <:+ shown bytes <-> encode cs <:+ bytes := by
  constructor
  · rintro ⟨before, hbefore⟩
    have hshown := shownAs_shown bytes
    rw [← hbefore] at hshown
    exact hshown.suffix_encode hcs
  · rintro ⟨before, rfl⟩
    rw [shown_append_encode]
    exact List.suffix_append _ _

end Utf8

theorem Path.toList_text (path : Path) : path.text.toList = Utf8.shown path.bytes :=
  String.toList_ofList

/-- A path ends with a suffix in its text just when its bytes end with those of the suffix,
unless the suffix itself has a replacement character. -/
theorem hasSourceSuffix_iff_encode (path : Path) (suffixes : List String)
    (hsuffixes : forall suffix, suffix ∈ suffixes -> '\uFFFD' ∉ suffix.toList) :
    (forall text, Utf8.ShownAs path.bytes text <-> text = path.text.toList) ∧
      (hasSourceSuffix path suffixes = true <->
        exists suffix, suffix ∈ suffixes ∧ suffix ≠ "" ∧
          Utf8.encode suffix.toList <:+ path.bytes) ∧
      (forall suffix before, suffix ∈ suffixes -> suffix ≠ "" ->
        hasSourceSuffix ⟨before ++ Utf8.encode suffix.toList⟩ suffixes = true) := by
  have hiff (path : Path) : hasSourceSuffix path suffixes = true <->
      exists suffix, suffix ∈ suffixes ∧ suffix ≠ "" ∧
        Utf8.encode suffix.toList <:+ path.bytes := by
    rw [hasSourceSuffix_iff]
    apply exists_congr
    intro suffix
    apply and_congr_right
    intro hmem
    rw [path.toList_text, Utf8.suffix_shown_iff (hsuffixes suffix hmem)]
  refine ⟨fun text => ?_, hiff path, ?_⟩
  · rw [path.toList_text]
    exact Utf8.shownAs_iff
  · intro suffix before hmem hne
    exact (hiff _).mpr ⟨suffix, hmem, hne, List.suffix_append _ _⟩

/-- A three-byte character breaks off right before the suffix. -/
theorem hasSourceSuffix_iff_encode_broken :
    (forall suffix, suffix ∈ [".elc", "", ".el"] -> '\uFFFD' ∉ suffix.toList) ∧
      hasSourceSuffix ⟨[0x2F, 0x61, 0xE2, 0x82, 0x2E, 0x65, 0x6C]⟩
        [".elc", "", ".el"] = true := by
  have hsuffixes : forall suffix,
      suffix ∈ [".elc", "", ".el"] -> '\uFFFD' ∉ suffix.toList := by
    decide
  refine ⟨hsuffixes, ?_⟩
  have hiff := (hasSourceSuffix_iff_encode ⟨[0x2F, 0x61, 0xE2, 0x82, 0x2E, 0x65, 0x6C]⟩
    [".elc", "", ".el"] hsuffixes).2.1
  exact hiff.mpr ⟨".el", by decide, by decide, [0x2F, 0x61, 0xE2, 0x82], by decide⟩

end CompileOnLoad
