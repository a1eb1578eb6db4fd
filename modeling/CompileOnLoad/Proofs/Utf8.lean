import CompileOnLoad.Text.Utf8

/-!
# Encoding and decoding

A byte string is decoded if and only if it is the encoding of a text, and then to that
text.  For the one direction the encoding of each character is read back; for the
other, a character in progress has such ranges for its next byte that whatever
finishes it is its encoding.
-/

namespace CompileOnLoad
namespace Utf8

/-!
# The bytes of a character
-/

theorem toNat_val_ofNat {n : Nat} (h : n.isValidChar) : (Char.ofNat n).val.toNat = n := by
  unfold Char.ofNat
  rw [dif_pos h]
  rfl

theorem encodeChar_two {a b : UInt8} (ha : 0xC2 ≤ a ∧ a ≤ 0xDF) (hb : 0x80 ≤ b ∧ b ≤ 0xBF)
    {n : Nat} (hn : n = (a.toNat - 0xC0) * 64 + (b.toNat - 0x80)) :
    String.utf8EncodeChar (Char.ofNat n) = [a, b] := by
  simp only [UInt8.le_iff_toNat_le, UInt8.reduceToNat] at ha hb
  have ha' : n / 64 % 32 + 192 = a.toNat := by omega
  have hb' : n % 64 + 128 = b.toNat := by omega
  unfold String.utf8EncodeChar
  rw [toNat_val_ofNat (.inl (by omega))]
  simp only
  rw [if_neg (by omega), if_pos (by omega), ha', hb', UInt8.ofNat_toNat, UInt8.ofNat_toNat]

theorem encodeChar_three {a b c : UInt8} (ha : 0xE0 ≤ a ∧ a ≤ 0xEF)
    (hb : 0x80 ≤ b ∧ b ≤ 0xBF) (hc : 0x80 ≤ c ∧ c ≤ 0xBF) {n : Nat}
    (hn : n = ((a.toNat - 0xE0) * 64 + (b.toNat - 0x80)) * 64 + (c.toNat - 0x80))
    (hlong : 0x800 ≤ n) (hvalid : n.isValidChar) :
    String.utf8EncodeChar (Char.ofNat n) = [a, b, c] := by
  simp only [UInt8.le_iff_toNat_le, UInt8.reduceToNat] at ha hb hc
  have ha' : n / 4096 % 16 + 224 = a.toNat := by omega
  have hb' : n / 64 % 64 + 128 = b.toNat := by omega
  have hc' : n % 64 + 128 = c.toNat := by omega
  unfold String.utf8EncodeChar
  rw [toNat_val_ofNat hvalid]
  simp only
  rw [if_neg (by omega), if_neg (by omega), if_pos (by omega), ha', hb', hc',
    UInt8.ofNat_toNat, UInt8.ofNat_toNat, UInt8.ofNat_toNat]

theorem encodeChar_four {a b c d : UInt8} (ha : 0xF0 ≤ a ∧ a ≤ 0xF4)
    (hb : 0x80 ≤ b ∧ b ≤ 0xBF) (hc : 0x80 ≤ c ∧ c ≤ 0xBF) (hd : 0x80 ≤ d ∧ d ≤ 0xBF)
    {n : Nat}
    (hn : n = (((a.toNat - 0xF0) * 64 + (b.toNat - 0x80)) * 64 + (c.toNat - 0x80)) * 64 +
      (d.toNat - 0x80))
    (hlong : 0x10000 ≤ n) (hvalid : n.isValidChar) :
    String.utf8EncodeChar (Char.ofNat n) = [a, b, c, d] := by
  simp only [UInt8.le_iff_toNat_le, UInt8.reduceToNat] at ha hb hc hd
  have ha' : n / 262144 % 8 + 240 = a.toNat := by omega
  have hb' : n / 4096 % 64 + 128 = b.toNat := by omega
  have hc' : n / 64 % 64 + 128 = c.toNat := by omega
  have hd' : n % 64 + 128 = d.toNat := by omega
  unfold String.utf8EncodeChar
  rw [toNat_val_ofNat hvalid]
  simp only
  rw [if_neg (by omega), if_neg (by omega), if_neg (by omega), ha', hb', hc', hd',
    UInt8.ofNat_toNat, UInt8.ofNat_toNat, UInt8.ofNat_toNat, UInt8.ofNat_toNat]

/-!
# Decoding gives what was encoded
-/

/-- Whatever bytes finish the character, all its bytes are its encoding. -/
def Unfinished.IsSound (owed : Nat) (u : Unfinished) : Prop :=
  match owed with
  | 0 => False
  | 1 => forall b, u.low ≤ b ∧ b ≤ u.high ->
      String.utf8EncodeChar (Char.ofNat (u.push b).value) = u.bytes ++ [b]
  | owed + 2 => forall b, u.low ≤ b ∧ b ≤ u.high -> IsSound (owed + 1) (u.push b)

theorem isSound_three {a low high : UInt8} (ha : 0xE0 ≤ a ∧ a ≤ 0xEF) (hlow : 0x80 ≤ low)
    (hhigh : high ≤ 0xBF)
    (hvalid : forall n, ((a.toNat - 0xE0) * 64 + (low.toNat - 0x80)) * 64 ≤ n ->
      n < ((a.toNat - 0xE0) * 64 + (high.toNat - 0x80) + 1) * 64 ->
        0x800 ≤ n ∧ n.isValidChar) :
    Unfinished.IsSound 2 ⟨[a], a.toNat - 0xE0, 2, low, high⟩ := by
  intro b hb c hc
  have hb' : 0x80 ≤ b ∧ b ≤ 0xBF := ⟨UInt8.le_trans hlow hb.1, UInt8.le_trans hb.2 hhigh⟩
  have hn := hvalid (((a.toNat - 0xE0) * 64 + (b.toNat - 0x80)) * 64 + (c.toNat - 0x80))
  simp only [Unfinished.push, UInt8.le_iff_toNat_le, UInt8.reduceToNat] at hlow hb hc hn
  rcases hn (by omega) (by omega) with ⟨hlong, hchar⟩
  exact encodeChar_three ha hb' hc rfl hlong hchar

theorem isSound_four {a low high : UInt8} (ha : 0xF0 ≤ a ∧ a ≤ 0xF4) (hlow : 0x80 ≤ low)
    (hhigh : high ≤ 0xBF)
    (hvalid : forall n, ((a.toNat - 0xF0) * 64 + (low.toNat - 0x80)) * 4096 ≤ n ->
      n < ((a.toNat - 0xF0) * 64 + (high.toNat - 0x80) + 1) * 4096 ->
        0x10000 ≤ n ∧ n.isValidChar) :
    Unfinished.IsSound 3 ⟨[a], a.toNat - 0xF0, 3, low, high⟩ := by
  intro b hb c hc d hd
  have hb' : 0x80 ≤ b ∧ b ≤ 0xBF := ⟨UInt8.le_trans hlow hb.1, UInt8.le_trans hb.2 hhigh⟩
  have hn :=
    hvalid ((((a.toNat - 0xF0) * 64 + (b.toNat - 0x80)) * 64 + (c.toNat - 0x80)) * 64 +
    (d.toNat - 0x80))
  simp only [Unfinished.push, UInt8.le_iff_toNat_le, UInt8.reduceToNat] at hlow hb hc hd hn
  rcases hn (by omega) (by omega) with ⟨hlong, hchar⟩
  exact encodeChar_four ha hb' hc hd rfl hlong hchar

theorem isSound_lead {b : UInt8} {u : Unfinished} (h : lead? b = some u) :
    u.IsSound u.owed := by
  revert h
  fun_cases lead? b with
  | case1 htwo =>
      rintro ⟨⟩ c hc
      exact encodeChar_two htwo hc rfl
  | case2 _ hb =>
      rintro ⟨⟩
      subst hb
      apply isSound_three (by decide) (by decide) (by decide)
      simp only [UInt8.reduceToNat]
      omega
  | case3 _ _ hb =>
      rintro ⟨⟩
      subst hb
      apply isSound_three (by decide) (by decide) (by decide)
      simp only [UInt8.reduceToNat]
      omega
  | case4 _ hfirst hsurrogates hthree =>
      -- the two leads that have a range of their own have been dealt with
      rintro ⟨⟩
      have hfirst' : b.toNat ≠ 0xE0 := fun heq => hfirst (UInt8.toNat_inj.mp heq)
      have hsurrogates' : b.toNat ≠ 0xED := fun heq => hsurrogates (UInt8.toNat_inj.mp heq)
      apply isSound_three
        ⟨UInt8.le_trans (by decide) hthree.1, hthree.2⟩ (by decide) (by decide)
      simp only [UInt8.le_iff_toNat_le, UInt8.reduceToNat] at hthree ⊢
      omega
  | case5 _ _ _ _ hb =>
      rintro ⟨⟩
      subst hb
      apply isSound_four (by decide) (by decide) (by decide)
      simp only [UInt8.reduceToNat]
      omega
  | case6 _ _ _ _ _ hfour =>
      rintro ⟨⟩
      apply isSound_four
        ⟨UInt8.le_trans (by decide) hfour.1, UInt8.le_trans hfour.2 (by decide)⟩
        (by decide) (by decide)
      simp only [UInt8.le_iff_toNat_le, UInt8.reduceToNat] at hfour ⊢
      omega
  | case7 _ _ _ _ _ _ hb =>
      rintro ⟨⟩
      subst hb
      apply isSound_four (by decide) (by decide) (by decide)
      simp only [UInt8.reduceToNat]
      omega
  | case8 =>
      rintro ⟨⟩

theorem bytes_lead {b : UInt8} {u : Unfinished} (h : lead? b = some u) : u.bytes = [b] := by
  revert h
  fun_cases lead? b <;> rintro ⟨⟩ <;> rfl

theorem mapM_char (c : Char) (pieces : List Piece) :
    (Piece.char c :: pieces).mapM Piece.char? = (pieces.mapM Piece.char?).map (c :: ·) := by
  rw [List.mapM_cons]
  cases pieces.mapM Piece.char? <;> rfl

theorem mapM_invalid (bytes : List UInt8) (pieces : List Piece) :
    (Piece.invalid bytes :: pieces).mapM Piece.char? = none := by
  rw [List.mapM_cons]
  rfl

theorem Unfinished.IsSound.finished {owed : Nat} {u : Unfinished} (hsound : u.IsSound owed)
    (howed : u.owed = owed) {bytes : List UInt8} {cs : List Char}
    (h : (read (some u) bytes).mapM Piece.char? = some cs) :
    exists c tail cs' rest, cs = c :: cs' ∧ bytes = tail ++ rest ∧
      String.utf8EncodeChar c = u.bytes ++ tail ∧ decode? rest = some cs' := by
  induction owed generalizing u bytes with
  | zero => exact hsound.elim
  | succ owed ih =>
      cases bytes with
      | nil =>
          rw [read, mapM_invalid] at h
          cases h
      | cons b rest =>
          rw [read] at h
          by_cases hb : u.low ≤ b ∧ b ≤ u.high
          · simp only [if_pos hb, howed] at h
            cases owed with
            | zero =>
                rw [if_pos rfl, mapM_char, Option.map_eq_some_iff] at h
                rcases h with ⟨cs', hcs', rfl⟩
                exact ⟨_, [b], cs', rest, rfl, rfl, hsound b hb, hcs'⟩
            | succ owed =>
                rw [if_neg (by omega)] at h
                have hpush : (u.push b).owed = owed + 1 := by
                  simp only [Unfinished.push, howed]
                  omega
                rcases ih (hsound b hb) hpush h with
                  ⟨c, tail, cs', rest', hcs, hbytes, hc, hrest⟩
                refine ⟨c, b :: tail, cs', rest', hcs, by rw [hbytes]; rfl, ?_, hrest⟩
                rw [hc, Unfinished.push, List.append_assoc]
                rfl
          · simp only [if_neg hb, mapM_invalid] at h
            cases h

theorem encodeChar_one {b : UInt8} (hb : b < 0x80) :
    String.utf8EncodeChar (Char.ofNat b.toNat) = [b] := by
  simp only [UInt8.lt_iff_toNat_lt, UInt8.reduceToNat] at hb
  unfold String.utf8EncodeChar
  rw [toNat_val_ofNat (.inl (by omega))]
  simp only
  rw [if_pos (by omega), UInt8.ofNat_toNat]

theorem eq_encode_of_decode? {bytes : List UInt8} {cs : List Char}
    (h : decode? bytes = some cs) : bytes = encode cs := by
  induction hn : bytes.length using Nat.strongRecOn generalizing bytes cs with
  | _ n ih =>
      subst hn
      rw [decode?, pieces] at h
      cases bytes with
      | nil =>
          cases h
          rfl
      | cons b rest =>
          rw [read] at h
          by_cases hb : b < 0x80
          · simp only [if_pos hb, mapM_char, Option.map_eq_some_iff] at h
            rcases h with ⟨cs', hcs', rfl⟩
            rw [encode, List.flatMap_cons, encodeChar_one hb,
              ih rest.length (by simp) hcs' rfl]
            rfl
          · cases hlead : lead? b with
            | none =>
                simp only [if_neg hb, hlead, mapM_invalid] at h
                cases h
            | some u =>
                simp only [if_neg hb, hlead] at h
                rcases (isSound_lead hlead).finished rfl h with
                  ⟨c, tail, cs', rest', rfl, rfl, hc, hrest⟩
                have hbytes : u.bytes = [b] := bytes_lead hlead
                have hshorter : rest'.length < (b :: (tail ++ rest')).length := by
                  rw [List.length_cons, List.length_append]
                  omega
                rw [encode, List.flatMap_cons, hc, hbytes, ih rest'.length hshorter hrest rfl,
                  List.append_assoc]
                rfl

/-!
# What was encoded is decoded
-/

theorem read_lead {b : UInt8} {u : Unfinished} (h : lead? b = some u) (rest : List UInt8) :
    read none (b :: rest) = read (some u) rest := by
  have hb : ¬b < 0x80 := by
    intro hb
    simp only [UInt8.lt_iff_toNat_lt, UInt8.reduceToNat] at hb
    revert h
    fun_cases lead? b <;> simp_all [UInt8.le_iff_toNat_le] <;> omega
  rw [read]
  simp only [if_neg hb, h]

theorem read_push {u : Unfinished} {b : UInt8} (hb : u.low ≤ b ∧ b ≤ u.high)
    (howed : u.owed ≠ 1)
    (rest : List UInt8) : read (some u) (b :: rest) = read (some (u.push b)) rest := by
  rw [read]
  simp only [if_pos hb, if_neg howed]

theorem read_last {u : Unfinished} {b : UInt8} (hb : u.low ≤ b ∧ b ≤ u.high)
    (howed : u.owed = 1) (rest : List UInt8) :
    read (some u) (b :: rest) = .char (Char.ofNat (u.push b).value) :: read none rest := by
  rw [read]
  simp only [if_pos hb, if_pos howed]

theorem lead_two {a : UInt8} (ha : 0xC2 ≤ a.toNat ∧ a.toNat ≤ 0xDF) :
    lead? a = some ⟨[a], a.toNat - 0xC0, 1, 0x80, 0xBF⟩ := by
  simp only [lead?, UInt8.le_iff_toNat_le, UInt8.reduceToNat]
  rw [if_pos ha]

theorem lead_three {a b : UInt8} (ha : 0xE0 ≤ a.toNat ∧ a.toNat ≤ 0xEF)
    (hb : 0x80 ≤ b.toNat ∧ b.toNat ≤ 0xBF) (hlong : a.toNat = 0xE0 -> 0xA0 ≤ b.toNat)
    (hchar : a.toNat = 0xED -> b.toNat ≤ 0x9F) :
    exists low high, lead? a = some ⟨[a], a.toNat - 0xE0, 2, low, high⟩ ∧ low ≤ b ∧
    b ≤ high := by
  simp only [lead?, UInt8.le_iff_toNat_le, ← UInt8.toNat_inj, UInt8.reduceToNat]
  rw [if_neg (by omega)]
  by_cases hfirst : a.toNat = 0xE0
  · rw [if_pos hfirst]
    exact ⟨0xA0, 0xBF, by rw [hfirst], hlong hfirst, hb.2⟩
  · rw [if_neg hfirst]
    by_cases hsurrogates : a.toNat = 0xED
    · rw [if_pos hsurrogates]
      exact ⟨0x80, 0x9F, by rw [hsurrogates], hb.1, hchar hsurrogates⟩
    · rw [if_neg hsurrogates, if_pos (by omega)]
      exact ⟨0x80, 0xBF, rfl, hb⟩

theorem lead_four {a b : UInt8} (ha : 0xF0 ≤ a.toNat ∧ a.toNat ≤ 0xF4)
    (hb : 0x80 ≤ b.toNat ∧ b.toNat ≤ 0xBF) (hlong : a.toNat = 0xF0 -> 0x90 ≤ b.toNat)
    (hlast : a.toNat = 0xF4 -> b.toNat ≤ 0x8F) :
    exists low high, lead? a = some ⟨[a], a.toNat - 0xF0, 3, low, high⟩ ∧ low ≤ b ∧
    b ≤ high := by
  simp only [lead?, UInt8.le_iff_toNat_le, ← UInt8.toNat_inj, UInt8.reduceToNat]
  rw [if_neg (by omega), if_neg (by omega), if_neg (by omega), if_neg (by omega)]
  by_cases hfirst : a.toNat = 0xF0
  · rw [if_pos hfirst]
    exact ⟨0x90, 0xBF, by rw [hfirst], hlong hfirst, hb.2⟩
  · rw [if_neg hfirst]
    by_cases hplain : a.toNat ≤ 0xF3
    · rw [if_pos (by omega)]
      exact ⟨0x80, 0xBF, rfl, hb⟩
    · have hlast' : a.toNat = 0xF4 := by omega
      rw [if_neg (by omega), if_pos hlast']
      exact ⟨0x80, 0x8F, by rw [hlast'], hb.1, hlast hlast'⟩

theorem read_two {a b : UInt8} {n : Nat} (ha : a.toNat = n / 64 % 32 + 192)
    (hb : b.toNat = n % 64 + 128) (hn : 0x80 ≤ n ∧ n < 0x800) (rest : List UInt8) :
    read none (a :: b :: rest) = .char (Char.ofNat n) :: read none rest := by
  have hb' : 0x80 ≤ b ∧ b ≤ 0xBF := by
    simp only [UInt8.le_iff_toNat_le, UInt8.reduceToNat]
    omega
  have hvalue : (a.toNat - 0xC0) * 64 + (b.toNat - 0x80) = n := by omega
  rw [read_lead (lead_two (by omega)), read_last hb' rfl, Unfinished.push, hvalue]

theorem read_three {a b c : UInt8} {n : Nat} (ha : a.toNat = n / 4096 % 16 + 224)
    (hb : b.toNat = n / 64 % 64 + 128) (hc : c.toNat = n % 64 + 128)
    (hn : 0x800 ≤ n ∧ n < 0x10000) (hchar : n < 0xD800 ∨ 0xDFFF < n) (rest : List UInt8) :
    read none (a :: b :: c :: rest) = .char (Char.ofNat n) :: read none rest := by
  rcases lead_three (a := a) (b := b) (by omega) (by omega) (by omega) (by omega) with
    ⟨low, high, hlead, hb'⟩
  have hc' : 0x80 ≤ c ∧ c ≤ 0xBF := by
    simp only [UInt8.le_iff_toNat_le, UInt8.reduceToNat]
    omega
  have hvalue : ((a.toNat - 0xE0) * 64 + (b.toNat - 0x80)) * 64 + (c.toNat - 0x80) = n := by
    omega
  rw [read_lead hlead, read_push hb' (by simp), Unfinished.push, read_last hc' rfl,
    Unfinished.push, hvalue]

theorem read_four {a b c d : UInt8} {n : Nat} (ha : a.toNat = n / 262144 % 8 + 240)
    (hb : b.toNat = n / 4096 % 64 + 128) (hc : c.toNat = n / 64 % 64 + 128)
    (hd : d.toNat = n % 64 + 128) (hn : 0x10000 ≤ n ∧ n < 0x110000) (rest : List UInt8) :
    read none (a :: b :: c :: d :: rest) = .char (Char.ofNat n) :: read none rest := by
  rcases lead_four (a := a) (b := b) (by omega) (by omega) (by omega) (by omega) with
    ⟨low, high, hlead, hb'⟩
  have hc' : 0x80 ≤ c ∧ c ≤ 0xBF := by
    simp only [UInt8.le_iff_toNat_le, UInt8.reduceToNat]
    omega
  have hd' : 0x80 ≤ d ∧ d ≤ 0xBF := by
    simp only [UInt8.le_iff_toNat_le, UInt8.reduceToNat]
    omega
  have hvalue : (((a.toNat - 0xF0) * 64 + (b.toNat - 0x80)) * 64 + (c.toNat - 0x80)) * 64 +
      (d.toNat - 0x80) = n := by omega
  rw [read_lead hlead, read_push hb' (by simp), Unfinished.push, read_push hc' (by simp),
    Unfinished.push, read_last hd' rfl, Unfinished.push, hvalue]

theorem read_encodeChar (c : Char) (rest : List UInt8) :
    read none (String.utf8EncodeChar c ++ rest) = .char c :: read none rest := by
  have hvalid : c.toNat < 0xD800 ∨ 0xDFFF < c.toNat ∧ c.toNat < 0x110000 := c.valid
  have hbyte {n : Nat} (h : n < 256) : (UInt8.ofNat n).toNat = n := UInt8.toNat_ofNat_of_lt' h
  unfold String.utf8EncodeChar
  rw [Char.toNat_val]
  simp only
  by_cases hone : c.toNat ≤ 127
  · have hlow : UInt8.ofNat c.toNat < 0x80 := by
      rw [UInt8.lt_iff_toNat_lt, hbyte (by omega)]
      exact Nat.lt_succ_of_le hone
    rw [if_pos hone, List.singleton_append, read]
    simp only [if_pos hlow, hbyte (show c.toNat < 256 by omega), Char.ofNat_toNat]
  · rw [if_neg hone]
    by_cases htwo : c.toNat ≤ 2047
    · have htwo' := read_two (hbyte (by omega)) (hbyte (by omega))
        (n := c.toNat) (by omega) rest
      rw [Char.ofNat_toNat] at htwo'
      rwa [if_pos htwo]
    · rw [if_neg htwo]
      by_cases hthree : c.toNat ≤ 65535
      · have hthree' := read_three (hbyte (by omega)) (hbyte (by omega)) (hbyte (by omega))
          (n := c.toNat) (by omega) (by omega) rest
        rw [Char.ofNat_toNat] at hthree'
        rwa [if_pos hthree]
      · have hfour := read_four (hbyte (by omega)) (hbyte (by omega)) (hbyte (by omega))
          (hbyte (by omega)) (n := c.toNat) (by omega) rest
        rw [Char.ofNat_toNat] at hfour
        rwa [if_neg hthree]

theorem decode?_encode (cs : List Char) : decode? (encode cs) = some cs := by
  induction cs with
  | nil => rfl
  | cons c cs ih =>
      rw [decode?, pieces] at ih ⊢
      rw [encode, List.flatMap_cons, read_encodeChar, mapM_char]
      exact congrArg (Option.map (c :: ·)) ih

/-- A byte string is decoded exactly to the text whose encoding it is. -/
theorem decode?_eq_some_iff {bytes : List UInt8} {cs : List Char} :
    decode? bytes = some cs <-> bytes = encode cs := by
  constructor
  · exact eq_encode_of_decode?
  · rintro rfl
    exact decode?_encode cs

theorem isSome_decode? {bytes : List UInt8} :
    (decode? bytes).isSome <-> exists cs, bytes = encode cs := by
  simp only [Option.isSome_iff_exists, decode?_eq_some_iff]

end Utf8
end CompileOnLoad
