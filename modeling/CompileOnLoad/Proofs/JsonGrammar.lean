import CompileOnLoad.Proofs.JsonText

/-!
# JSON texts

The grammar of JSON texts, as a relation between a text and the value that it stands for.
One value has many texts, which differ in white space and in how characters are spelled.  An
object may have a key more than once.  The escapes of a text stand for characters, so no
surrogate stands alone.

Readers are for values of one kind.  Each gets its value from every text of it, and refuses
the texts of all other values by their first characters or, in a list, by its first such item.
-/

namespace CompileOnLoad
namespace Json

variable {α : Type}

/-!
# The grammar
-/

def IsHexDigit (c : Char) (n : Nat) : Prop :=
  "0123456789abcdef".toList[n]? = some c ∨ "0123456789ABCDEF".toList[n]? = some c

inductive IsHexNumber : List Char -> Nat -> Prop where
  | digits {a b c d : Char} {i j k l : Nat} (first : IsHexDigit a i) (second : IsHexDigit b j)
      (third : IsHexDigit c k) (fourth : IsHexDigit d l) :
      IsHexNumber [a, b, c, d] (((i * 16 + j) * 16 + k) * 16 + l)

/-- The letters of short escapes, with the characters that they stand for. -/
def shortEscapes : List (Char × Char) :=
  [('"', '"'), ('\\', '\\'), ('/', '/'), ('b', '\x08'), ('f', '\x0c'), ('n', '\n'),
    ('r', '\r'), ('t', '\t')]

/-- A character within a text is spelled so: as it is, by a short escape, by its number, or
by the two numbers of its surrogates. -/
inductive Spells : List Char -> Char -> Prop where
  | plain {c : Char} (quote : c ≠ '"') (backslash : c ≠ '\\') (visible : ' ' ≤ c) :
      Spells [c] c
  | short {letter c : Char} (known : (letter, c) ∈ shortEscapes) : Spells ['\\', letter] c
  | code {digits : List Char} {c : Char} (number : IsHexNumber digits c.toNat) :
      Spells ('\\' :: 'u' :: digits) c
  | surrogates {leading trailing : List Char} {c : Char} (large : 0x10000 ≤ c.toNat)
      (first : IsHexNumber leading (0xD800 + (c.toNat - 0x10000) / 0x400))
      (second : IsHexNumber trailing (0xDC00 + (c.toNat - 0x10000) % 0x400)) :
      Spells ('\\' :: 'u' :: leading ++ '\\' :: 'u' :: trailing) c

inductive SpellsAll : List Char -> List Char -> Prop where
  | nil : SpellsAll [] []
  | cons {spelled rest : List Char} {c : Char} {cs : List Char} (first : Spells spelled c)
      (later : SpellsAll rest cs) : SpellsAll (spelled ++ rest) (c :: cs)

inductive IsText : List Char -> List Char -> Prop where
  | quoted {spelled cs : List Char} (h : SpellsAll spelled cs) :
      IsText ('"' :: spelled ++ ['"']) cs

def IsDigits (cs : List Char) : Prop :=
  cs ≠ [] ∧ forall c, c ∈ cs -> c.isDigit = true

/-- A sign, digits without a leading zero, and perhaps a fraction and an exponent. -/
inductive IsNumber : List Char -> Prop where
  | written {sign whole fraction exponent : List Char} (signed : sign = [] ∨ sign = ['-'])
      (digits : IsDigits whole) (leading : whole.head? = some '0' -> whole = ['0'])
      (pointed : fraction = [] ∨ exists digits, IsDigits digits ∧ fraction = '.' :: digits)
      (scaled : exponent = [] ∨ exists mark sign digits, mark ∈ ['e', 'E'] ∧
        sign ∈ [[], ['+'], ['-']] ∧ IsDigits digits ∧ exponent = mark :: sign ++ digits) :
      IsNumber (sign ++ whole ++ fraction ++ exponent)

/-- Items with commas between any two, and with white space around each. -/
inductive Separated (IsItem : List Char -> α -> Prop) : List Char -> List α -> Prop where
  | last {before written after : List Char} {item : α} (hbefore : IsGap before)
      (hitem : IsItem written item) (hafter : IsGap after) :
      Separated IsItem (before ++ written ++ after) [item]
  | cons {before written after rest : List Char} {item : α} {items : List α}
      (hbefore : IsGap before) (hitem : IsItem written item) (hafter : IsGap after)
      (hrest : Separated IsItem rest items) :
      Separated IsItem (before ++ written ++ after ++ ',' :: rest) (item :: items)

inductive IsMember (IsValue : List Char -> Value -> Prop) :
    List Char -> List Char × Value -> Prop where
  | member {key spelled before after written : List Char} {value : Value}
      (hkey : IsText spelled key) (hbefore : IsGap before) (hafter : IsGap after)
      (hvalue : IsValue written value) :
      IsMember IsValue (spelled ++ before ++ ':' :: after ++ written) (key, value)

inductive IsValue : List Char -> Value -> Prop where
  | null : IsValue ['n', 'u', 'l', 'l'] .null
  | yes : IsValue ['t', 'r', 'u', 'e'] (.boolean true)
  | no : IsValue ['f', 'a', 'l', 's', 'e'] (.boolean false)
  | number {written : List Char} (h : IsNumber written) : IsValue written (.number written)
  | text {written cs : List Char} (h : IsText written cs) : IsValue written (.text cs)
  | emptyList {gap : List Char} (h : IsGap gap) : IsValue ('[' :: gap ++ [']']) (.list [])
  | list {body : List Char} {items : List Value} (h : Separated IsValue body items) :
      IsValue ('[' :: body ++ [']']) (.list items)
  | emptyObject {gap : List Char} (h : IsGap gap) :
      IsValue ('\x7b' :: gap ++ ['\x7d']) (.object [])
  | object {body : List Char} {members : List (List Char × Value)}
      (h : Separated (IsMember IsValue) body members) :
      IsValue ('\x7b' :: body ++ ['\x7d']) (.object members)

inductive IsJson : String -> Value -> Prop where
  | surrounded {before written after : List Char} {value : Value} (hbefore : IsGap before)
      (hvalue : IsValue written value) (hafter : IsGap after) :
      IsJson (String.ofList (before ++ written ++ after)) value

theorem spellsAll_self {cs : List Char}
    (h : cs.all fun c => c ≠ '"' ∧ c ≠ '\\' ∧ ' ' ≤ c) : SpellsAll cs cs := by
  induction cs with
  | nil => exact .nil
  | cons c cs ih =>
      rw [List.all_cons, Bool.and_eq_true, decide_eq_true_eq] at h
      rcases h with ⟨⟨hquote, hbackslash, hvisible⟩, hlater⟩
      exact .cons (.plain hquote hbackslash hvisible) (ih hlater)

theorem IsJson.of_toList {text : String} {before written after : List Char} {value : Value}
    (hbefore : IsGap before) (hvalue : IsValue written value) (hafter : IsGap after)
    (htext : text.toList = before ++ written ++ after) : IsJson text value := by
  have hjson := IsJson.surrounded hbefore hvalue hafter
  rw [← htext, String.ofList_toList] at hjson
  exact hjson

/-!
# Reading texts
-/

theorem hexValue_of_isHexDigit {c : Char} {n : Nat} (h : IsHexDigit c n) :
    hexValue? c = some n := by
  have hall : forall i : Fin 16,
      hexValue? ("0123456789abcdef".toList.get i) = some i.val ∧
        hexValue? ("0123456789ABCDEF".toList.get i) = some i.val := by decide
  rcases h with h | h
  · rcases List.getElem?_eq_some_iff.mp h with ⟨hn, rfl⟩
    exact (hall ⟨n, hn⟩).1
  · rcases List.getElem?_eq_some_iff.mp h with ⟨hn, rfl⟩
    exact (hall ⟨n, hn⟩).2

theorem readHex_number {digits : List Char} {n : Nat} (h : IsHexNumber digits n)
    (rest : List Char) : readHex (digits ++ rest) = .ok (n, rest) := by
  cases h with
  | digits first second third fourth =>
      simp only [List.cons_append, List.nil_append, readHex, hexNumber?,
        hexValue_of_isHexDigit first, hexValue_of_isHexDigit second,
        hexValue_of_isHexDigit third, hexValue_of_isHexDigit fourth, Option.bind_eq_bind,
        Option.bind_some]

theorem readUnicode_code {digits : List Char} {c : Char} (h : IsHexNumber digits c.toNat)
    (rest : List Char) : readUnicode (digits ++ rest) = .ok (c, rest) := by
  have hvalid : c.toNat < 0xD800 ∨ 0xDFFF < c.toNat ∧ c.toNat < 0x110000 := c.valid
  have htrailing : isTrailingSurrogate c.toNat = false := by
    unfold isTrailingSurrogate
    simp only [Bool.and_eq_false_iff, decide_eq_false_iff_not]
    omega
  have hleading : isLeadingSurrogate c.toNat = false := by
    unfold isLeadingSurrogate
    simp only [Bool.and_eq_false_iff, decide_eq_false_iff_not]
    omega
  unfold readUnicode
  simp only [readHex_number h, htrailing, hleading, Bool.false_eq_true, if_false,
    Char.ofNat_toNat]

theorem readUnicode_surrogates {leading trailing : List Char} {c : Char}
    (large : 0x10000 ≤ c.toNat)
    (first : IsHexNumber leading (0xD800 + (c.toNat - 0x10000) / 0x400))
    (second : IsHexNumber trailing (0xDC00 + (c.toNat - 0x10000) % 0x400))
    (rest : List Char) :
    readUnicode (leading ++ '\\' :: 'u' :: (trailing ++ rest)) = .ok (c, rest) := by
  have hvalid : c.toNat < 0xD800 ∨ 0xDFFF < c.toNat ∧ c.toNat < 0x110000 := c.valid
  have hfirst : isTrailingSurrogate (0xD800 + (c.toNat - 0x10000) / 0x400) = false ∧
      isLeadingSurrogate (0xD800 + (c.toNat - 0x10000) / 0x400) = true := by
    unfold isTrailingSurrogate isLeadingSurrogate
    simp only [Bool.and_eq_false_iff, decide_eq_false_iff_not, Bool.and_eq_true,
      decide_eq_true_eq]
    omega
  have hsecond : isTrailingSurrogate (0xDC00 + (c.toNat - 0x10000) % 0x400) = true := by
    unfold isTrailingSurrogate
    simp only [Bool.and_eq_true, decide_eq_true_eq]
    omega
  have hcharacter : ofSurrogates (0xD800 + (c.toNat - 0x10000) / 0x400)
      (0xDC00 + (c.toNat - 0x10000) % 0x400) = c := by
    unfold ofSurrogates
    have hnumber : (0xD800 + (c.toNat - 0x10000) / 0x400 - 0xD800) * 0x400 +
        (0xDC00 + (c.toNat - 0x10000) % 0x400 - 0xDC00) + 0x10000 = c.toNat := by omega
    rw [hnumber, Char.ofNat_toNat]
  unfold readUnicode
  simp only [readHex_number first, hfirst.1, hfirst.2, Bool.false_eq_true, if_false, if_true,
    readTrailing, readHex_number second, hsecond, hcharacter]

theorem readEscape_short {letter c : Char} (h : (letter, c) ∈ shortEscapes)
    (rest : List Char) : readEscape (letter :: rest) = .ok (c, rest) := by
  simp only [shortEscapes, List.mem_cons, Prod.mk.injEq, List.not_mem_nil, or_false] at h
  rcases h with ⟨rfl, rfl⟩ | ⟨rfl, rfl⟩ | ⟨rfl, rfl⟩ | ⟨rfl, rfl⟩ | ⟨rfl, rfl⟩ | ⟨rfl, rfl⟩ |
    ⟨rfl, rfl⟩ | ⟨rfl, rfl⟩
  all_goals rfl

theorem readText_spelled {spelled cs : List Char} (h : SpellsAll spelled cs)
    (rest : List Char) : readText (spelled ++ '"' :: rest) = .ok (cs, rest) := by
  induction h with
  | nil => exact readText_quote rest
  | cons first later ih =>
      rw [List.append_assoc]
      cases first with
      | plain quote backslash visible =>
          exact readText_plain quote backslash (Char.not_lt.mpr visible) ih
      | short known => exact readText_escape (readEscape_short known _) ih
      | code number => exact readText_escape (readUnicode_code number _) ih
      | surrogates large first second =>
          rw [List.append_assoc]
          exact readText_escape (readUnicode_surrogates large first second _) ih

theorem reads_isText {written cs : List Char} (h : IsText written cs) (expected : String) :
    Reads (readTextValue expected) written cs := by
  cases h with
  | quoted spells =>
      intro gap rest hgap
      simp only [List.cons_append, List.append_assoc, List.nil_append]
      rw [readTextValue, skipSpace_gap_visible hgap rfl]
      exact readText_spelled spells rest

/-!
# Values by their first characters
-/

namespace Value

def firsts : Value -> List Char
  | null => ['n']
  | boolean true => ['t']
  | boolean false => ['f']
  | number _ => ['-', '0', '1', '2', '3', '4', '5', '6', '7', '8', '9']
  | text _ => ['"']
  | list _ => ['[']
  | object _ => ['\x7b']

variable {value : Value} {c : Char}

theorem isSpace_of_mem_firsts (h : c ∈ value.firsts) : isSpace c = false := by
  revert c
  cases value with
  | boolean b => cases b <;> simp [firsts, isSpace]
  | _ => simp [firsts, isSpace]

theorem ne_close_of_mem_firsts (h : c ∈ value.firsts) : c ≠ ']' := by
  revert c
  cases value with
  | boolean b => cases b <;> simp [firsts]
  | _ => simp [firsts]

theorem eq_null_of_mem_firsts (h : 'n' ∈ value.firsts) : value = .null := by
  cases value with
  | null => rfl
  | boolean b => cases b <;> simp [firsts] at h
  | _ => simp [firsts] at h

theorem eq_boolean_of_mem_firsts (h : 't' ∈ value.firsts ∨ 'f' ∈ value.firsts) :
    exists b, value = .boolean b := by
  cases value with
  | boolean b => exact ⟨b, rfl⟩
  | _ => simp [firsts] at h

theorem eq_text_of_mem_firsts (h : '"' ∈ value.firsts) : exists cs, value = .text cs := by
  cases value with
  | text cs => exact ⟨cs, rfl⟩
  | boolean b => cases b <;> simp [firsts] at h
  | _ => simp [firsts] at h

theorem eq_list_of_mem_firsts (h : '[' ∈ value.firsts) :
    exists items, value = .list items := by
  cases value with
  | list items => exact ⟨items, rfl⟩
  | boolean b => cases b <;> simp [firsts] at h
  | _ => simp [firsts] at h

end Value

theorem mem_digits_of_isDigit {c : Char} (h : c.isDigit = true) :
    c ∈ ['0', '1', '2', '3', '4', '5', '6', '7', '8', '9'] := by
  have hall : forall i : Fin 10,
      Char.ofNat (48 + i.val) ∈ ['0', '1', '2', '3', '4', '5', '6', '7', '8', '9'] := by
    decide
  rcases Char.isDigit_iff_toNat.mp h with ⟨hzero, hnine⟩
  change 48 ≤ c.toNat at hzero
  change c.toNat ≤ 57 at hnine
  have hc := hall ⟨c.toNat - 48, by omega⟩
  rwa [show 48 + (c.toNat - 48) = c.toNat by omega, Char.ofNat_toNat] at hc

theorem IsNumber.exists_first {written : List Char} (h : IsNumber written) :
    exists c rest, written = c :: rest ∧ c ∈ (Value.number written).firsts := by
  cases h with
  | @written sign whole fraction exponent signed digits leading pointed scaled =>
      rcases signed with rfl | rfl
      · rcases List.exists_cons_of_ne_nil digits.1 with ⟨c, rest, rfl⟩
        have hdigit := mem_digits_of_isDigit (digits.2 c List.mem_cons_self)
        exact ⟨c, rest ++ fraction ++ exponent, rfl, List.mem_cons_of_mem _ hdigit⟩
      · exact ⟨'-', whole ++ fraction ++ exponent, rfl, List.mem_cons_self⟩

theorem IsValue.exists_first {written : List Char} {value : Value}
    (h : IsValue written value) : exists c rest, written = c :: rest ∧ c ∈ value.firsts := by
  cases h with
  | number h => exact h.exists_first
  | text h =>
      cases h with
      | quoted spells => exact ⟨_, _, rfl, List.mem_cons_self⟩
  | _ => exact ⟨_, _, rfl, List.mem_cons_self⟩

/-- After white space a reader sees one of the first characters of the value. -/
theorem IsValue.exists_skipSpace {written gap : List Char} {value : Value}
    (h : IsValue written value) (hgap : IsGap gap) (rest : List Char) :
    exists c more, written = c :: more ∧ c ∈ value.firsts ∧
      skipSpace (gap ++ written ++ rest) = c :: (more ++ rest) := by
  rcases h.exists_first with ⟨c, more, rfl, hfirst⟩
  refine ⟨c, more, rfl, hfirst, ?_⟩
  rw [List.append_assoc, List.cons_append,
    skipSpace_gap_visible hgap (Value.isSpace_of_mem_firsts hfirst)]

/-!
# Which values readers refuse
-/

/-- The reader does not accept what is written, after any white space and whatever follows. -/
def Refuses (read : List Char -> Reading α) (written : List Char) : Prop :=
  forall gap rest, IsGap gap -> exists fault, read (gap ++ written ++ rest) = .error fault

theorem Refuses.map {β : Type} {read : List Char -> Reading α} {written : List Char}
    (h : Refuses read written) (f : α -> β) :
    Refuses (fun cs => (read cs).map fun (a, rest) => (f a, rest)) written := by
  intro gap rest hgap
  rcases h gap rest hgap with ⟨fault, hfault⟩
  exact ⟨fault, by simp only [hfault]; rfl⟩

variable {written : List Char} {value : Value}

theorem refuses_readTextValue (h : IsValue written value)
    (hvalue : forall cs, value ≠ .text cs)
    (expected : String) : Refuses (readTextValue expected) written := by
  intro gap rest hgap
  rcases h.exists_skipSpace hgap rest with ⟨c, more, -, hfirst, hskip⟩
  rw [readTextValue, hskip]
  split
  · next heq =>
      cases heq
      rcases Value.eq_text_of_mem_firsts hfirst with ⟨cs, hcs⟩
      exact absurd hcs (hvalue cs)
  · exact ⟨_, rfl⟩

theorem refuses_readBoolean (h : IsValue written value)
    (hvalue : forall b, value ≠ .boolean b) : Refuses readBoolean written := by
  intro gap rest hgap
  rcases h.exists_skipSpace hgap rest with ⟨c, more, -, hfirst, hskip⟩
  rw [readBoolean, hskip]
  split
  · next heq =>
      cases heq
      rcases Value.eq_boolean_of_mem_firsts (.inl hfirst) with ⟨b, hb⟩
      exact absurd hb (hvalue b)
  · next heq =>
      cases heq
      rcases Value.eq_boolean_of_mem_firsts (.inr hfirst) with ⟨b, hb⟩
      exact absurd hb (hvalue b)
  · exact ⟨_, rfl⟩

theorem refuses_readOptional {read : List Char -> Reading α} (h : IsValue written value)
    (hvalue : value ≠ .null) (hread : Refuses read written) :
    Refuses (readOptional read) written := by
  intro gap rest hgap
  rcases hread [] rest isGap_nil with ⟨fault, hfault⟩
  rcases h.exists_skipSpace hgap rest with ⟨c, more, rfl, hfirst, hskip⟩
  rw [readOptional, hskip]
  split
  · next heq =>
      cases heq
      exact absurd (Value.eq_null_of_mem_firsts hfirst) hvalue
  · refine ⟨fault, ?_⟩
    rw [← List.cons_append, show read (c :: more ++ rest) = .error fault from hfault]
    rfl

/-!
# Lists of texts
-/

def lead (first : Bool) (body : List Char) : List Char :=
  if first then body else ',' :: body

theorem skipSpace_lead {gap before : List Char} {c : Char} (hgap : IsGap gap)
    (hbefore : IsGap before) (hc : isSpace c = false) (first : Bool) (cs : List Char) :
    skipSpace (gap ++ lead first (before ++ c :: cs)) =
      if first then c :: cs else ',' :: (before ++ c :: cs) := by
  rw [skipSpace_gap hgap]
  cases first with
  | true => exact skipSpace_gap_visible hbefore hc cs
  | false => exact skipSpace_visible rfl _

theorem nextItem_lead {gap before : List Char} {c : Char} (hgap : IsGap gap)
    (hbefore : IsGap before) (hc : isSpace c = false) (hopen : c ≠ ']') (first : Bool)
    (cs : List Char) :
    nextItem first (gap ++ lead first (before ++ c :: cs)) = .ok (.item (c :: cs)) := by
  unfold nextItem
  rw [skipSpace_lead hgap hbefore hc]
  cases first with
  | true => simp
  | false => simp [skipSpace_gap_visible hbefore hc, hopen]

/-- Items are read exactly if all of them are texts. -/
def ReadsItems (expected : String) (first : Bool) (cs : List Char) (items : List Value)
    (rest : List Char) : Prop :=
  (forall texts : List (List Char), items = texts.map .text ->
    readItems expected first cs = .ok (texts, rest)) ∧
  ((forall texts : List (List Char), items ≠ texts.map .text) ->
    exists fault, readItems expected first cs = .error fault)

theorem readsItems_cons {expected : String} {gap before written more : List Char}
    {item : Value} {items : List Value} {rest : List Char} (first : Bool) (hgap : IsGap gap)
    (hbefore : IsGap before) (hitem : IsValue written item)
    (hmore : ReadsItems expected false more items rest) :
    ReadsItems expected first (gap ++ lead first (before ++ written ++ more)) (item :: items)
      rest := by
  rcases hitem.exists_first with ⟨c, tail, rfl, hfirst⟩
  have hnext : nextItem first (gap ++ lead first (before ++ (c :: tail) ++ more)) =
      .ok (.item (c :: tail ++ more)) := by
    rw [List.append_assoc, List.cons_append]
    exact nextItem_lead hgap hbefore (Value.isSpace_of_mem_firsts hfirst)
      (Value.ne_close_of_mem_firsts hfirst) first _
  constructor
  · intro texts htexts
    cases texts with
    | nil => cases htexts
    | cons cs texts =>
        cases htexts
        cases hitem with
        | text h =>
            exact readItems_item hnext (reads_isText h expected [] more isGap_nil)
              (hmore.1 texts rfl)
  · intro hnone
    by_cases htext : exists cs, item = .text cs
    · rcases htext with ⟨cs, rfl⟩
      have hlater (texts : List (List Char)) : items ≠ texts.map Value.text := by
        intro heq
        apply hnone (cs :: texts)
        rw [heq]
        rfl
      rcases hmore.2 hlater with ⟨fault, hfault⟩
      cases hitem with
      | text h =>
          have hread : readTextValue expected (c :: tail ++ more) = .ok (cs, more) :=
            reads_isText h expected [] more isGap_nil
          rw [readItems_eq, hnext]
          simp only [hread, hfault]
          exact ⟨fault, rfl⟩
    · rcases refuses_readTextValue hitem (fun cs heq => htext ⟨cs, heq⟩) expected [] more
        isGap_nil with ⟨fault, hfault⟩
      have hread : readTextValue expected (c :: tail ++ more) = .error fault := hfault
      rw [readItems_eq, hnext]
      simp only [hread]
      exact ⟨fault, rfl⟩

theorem readsItems_end {after : List Char} (hafter : IsGap after) (expected : String)
    (first : Bool) (rest : List Char) :
    ReadsItems expected first (after ++ ']' :: rest) [] rest := by
  have hread : readItems expected first (after ++ ']' :: rest) = .ok ([], rest) :=
    readItems_finished (nextItem_finished hafter first rest)
  constructor
  · intro texts htexts
    cases texts with
    | nil => exact hread
    | cons cs texts => cases htexts
  · intro hnone
    exact absurd rfl (hnone [])

theorem readsItems_separated {body : List Char} {items : List Value}
    (h : Separated IsValue body items) {gap : List Char} (hgap : IsGap gap)
    (expected : String) (first : Bool) (rest : List Char) :
    ReadsItems expected first (gap ++ lead first (body ++ ']' :: rest)) items rest := by
  induction h generalizing first gap with
  | last hbefore hitem hafter =>
      have hread := readsItems_cons first hgap hbefore hitem
        (readsItems_end hafter expected false rest)
      rw [← List.append_assoc] at hread
      exact hread
  | cons hbefore hitem hafter hrest ih =>
      have hread := readsItems_cons first hgap hbefore hitem (ih hafter false)
      rw [← List.append_assoc] at hread
      rw [List.append_assoc]
      exact hread

theorem readTexts_list {items : List Value} (h : IsValue written (.list items))
    (expected : String) {gap : List Char} (hgap : IsGap gap) (rest : List Char) :
    exists cs, readTexts expected (gap ++ written ++ rest) = readItems expected true cs ∧
      ReadsItems expected true cs items rest := by
  have hread (cs : List Char) :
      readTexts expected (gap ++ ('[' :: cs ++ [']']) ++ rest) =
        readItems expected true (cs ++ ']' :: rest) := by
    simp only [List.append_assoc, List.cons_append, List.nil_append]
    rw [readTexts, skipSpace_gap_visible hgap rfl]
    rfl
  cases h with
  | emptyList h => exact ⟨_, hread _, readsItems_end h expected true rest⟩
  | list h => exact ⟨_, hread _, readsItems_separated h isGap_nil expected true rest⟩

theorem reads_isList {texts : List (List Char)}
    (h : IsValue written (.list (texts.map .text)))
    (expected : String) : Reads (readTexts expected) written texts := by
  intro gap rest hgap
  rcases readTexts_list h expected hgap rest with ⟨cs, hread, hitems⟩
  rw [hread]
  exact hitems.1 texts rfl

theorem refuses_readTexts (h : IsValue written value)
    (hvalue : forall texts : List (List Char), value ≠ .list (texts.map .text))
    (expected : String) : Refuses (readTexts expected) written := by
  intro gap rest hgap
  by_cases hlist : exists items, value = .list items
  · rcases hlist with ⟨items, rfl⟩
    rcases readTexts_list h expected hgap rest with ⟨cs, hread, hitems⟩
    rw [hread]
    exact hitems.2 fun texts heq => hvalue texts (congrArg Value.list heq)
  · rcases h.exists_skipSpace hgap rest with ⟨c, more, -, hfirst, hskip⟩
    rw [readTexts, hskip]
    split
    · next heq =>
        cases heq
        exact absurd (Value.eq_list_of_mem_firsts hfirst) hlist
    · exact ⟨_, rfl⟩

/-!
# Words that are values
-/

theorem reads_isBoolean {b : Bool} (h : IsValue written (.boolean b)) :
    Reads readBoolean written b := by
  cases h with
  | yes => exact reads_boolean true
  | no => exact reads_boolean false

theorem reads_isNull {read : List Char -> Reading α} (h : IsValue written .null) :
    Reads (readOptional read) written none := by
  cases h with
  | null => exact reads_null read

/-- What is read and is not `null` is read as one that is not left out. -/
theorem reads_isPresent {read : List Char -> Reading α} {a : α} (h : IsValue written value)
    (hvalue : value ≠ .null) (hread : Reads read written a) :
    Reads (readOptional read) written (some a) := by
  rcases h.exists_first with ⟨c, rest, rfl, hfirst⟩
  apply hread.optional (Value.isSpace_of_mem_firsts hfirst)
  rintro rfl
  exact hvalue (Value.eq_null_of_mem_firsts hfirst)

end Json
end CompileOnLoad
