import CompileOnLoad.Json.Number

/-!
# Reading the parts of JSON documents

White space, words, texts and lists of texts.  A reader takes what is left of a document and
gives a value and what is left after it, which is shorter.
-/

namespace CompileOnLoad
namespace Json

def isSpace (c : Char) : Bool :=
  c = ' ' || c = '\n' || c = '\t' || c = '\r'

def skipSpace (cs : List Char) : List Char := cs.dropWhile isSpace

/-- A fault of the character that comes next; at the end of the document, of the end. -/
def faultAt (cause : Cause) (rest : List Char) : Fault :=
  { cause, rest, ahead := 1 }

def readWord : List Char -> List Char -> Reading Unit
  | [], cs => .ok ((), cs)
  | _ :: _, [] => .error { cause := .endInValue, rest := [] }
  | w :: word, c :: cs =>
    if c = w then readWord word cs else .error (faultAt .wordExpected (c :: cs))

def hexValue? (c : Char) : Option Nat :=
  if '0' ≤ c ∧ c ≤ '9' then some (c.toNat - '0'.toNat)
  else if 'a' ≤ c ∧ c ≤ 'f' then some (c.toNat - 'a'.toNat + 10)
  else if 'A' ≤ c ∧ c ≤ 'F' then some (c.toNat - 'A'.toNat + 10)
  else none

def hexNumber? (a b c d : Char) : Option Nat := do
  some ((((← hexValue? a) * 16 + (← hexValue? b)) * 16 + (← hexValue? c)) * 16 +
    (← hexValue? d))

/-- The fault of a wrong digit in a numeric escape: four bytes count as read, and if there
are fewer, the document ends too soon. -/
def hexFault (cs : List Char) : Fault :=
  if (Utf8.encode (cs.take 4)).length < 4 then { cause := .endInText, rest := [] }
  else { cause := .invalidEscape, rest := cs, ahead := 4 }

def readHex (cs : List Char) : Reading Nat :=
  match cs with
  | a :: b :: c :: d :: rest =>
    match hexNumber? a b c d with
    | some n => .ok (n, rest)
    | none => .error (hexFault cs)
  | _ => .error (hexFault cs)

def isLeadingSurrogate (n : Nat) : Bool := 0xD800 ≤ n && n ≤ 0xDBFF

def isTrailingSurrogate (n : Nat) : Bool := 0xDC00 ≤ n && n ≤ 0xDFFF

def ofSurrogates (leading trailing : Nat) : Char :=
  Char.ofNat ((leading - 0xD800) * 0x400 + (trailing - 0xDC00) + 0x10000)

def readTrailing (leading : Nat) : List Char -> Reading Char
  | [] => .error { cause := .endInText, rest := [] }
  | ['\\'] => .error { cause := .endInText, rest := [] }
  | '\\' :: 'u' :: rest =>
    match readHex rest with
    | .error fault => .error fault
    | .ok (trailing, rest) =>
      if isTrailingSurrogate trailing then .ok (ofSurrogates leading trailing, rest)
      else .error { cause := .loneSurrogate, rest }
  | '\\' :: other => .error (faultAt .unfinishedEscape other)
  | other => .error (faultAt .unfinishedEscape other)

def readUnicode (cs : List Char) : Reading Char :=
  match readHex cs with
  | .error fault => .error fault
  | .ok (n, rest) =>
    if isTrailingSurrogate n then .error { cause := .loneSurrogate, rest }
    else if isLeadingSurrogate n then readTrailing n rest
    else .ok (Char.ofNat n, rest)

def unescape? : Char -> Option Char
  | '"' => some '"'
  | '\\' => some '\\'
  | '/' => some '/'
  | 'b' => some '\x08'
  | 'f' => some '\x0c'
  | 'n' => some '\n'
  | 'r' => some '\r'
  | 't' => some '\t'
  | _ => none

def readEscape : List Char -> Reading Char
  | [] => .error { cause := .endInText, rest := [] }
  | 'u' :: rest => readUnicode rest
  | c :: rest =>
    match unescape? c with
    | some d => .ok (d, rest)
    | none => .error (faultAt .invalidEscape (c :: rest))

theorem length_of_readHex {cs rest : List Char} {n : Nat} (h : readHex cs = .ok (n, rest)) :
    rest.length < cs.length := by
  unfold readHex at h
  split at h
  · split at h
    · simp only [Except.ok.injEq, Prod.mk.injEq] at h
      simp only [← h.2, List.length_cons]
      omega
    · simp at h
  · simp at h

theorem length_of_readTrailing {leading : Nat} {cs rest : List Char} {c : Char}
    (h : readTrailing leading cs = .ok (c, rest)) : rest.length < cs.length := by
  unfold readTrailing at h
  split at h
  · simp at h
  · simp at h
  · split at h
    · simp at h
    · next hex =>
      have := length_of_readHex hex
      split at h
      · simp only [Except.ok.injEq, Prod.mk.injEq] at h
        simp only [← h.2, List.length_cons]
        omega
      · simp at h
  · simp at h
  · simp at h

theorem length_of_readUnicode {cs rest : List Char} {c : Char}
    (h : readUnicode cs = .ok (c, rest)) : rest.length < cs.length := by
  unfold readUnicode at h
  split at h
  · simp at h
  · next hex =>
    have := length_of_readHex hex
    split at h
    · simp at h
    · split at h
      · have := length_of_readTrailing h
        omega
      · simp only [Except.ok.injEq, Prod.mk.injEq] at h
        rw [← h.2]
        omega

theorem length_of_readEscape {cs rest : List Char} {c : Char}
    (h : readEscape cs = .ok (c, rest)) : rest.length < cs.length := by
  unfold readEscape at h
  split at h
  · simp at h
  · have := length_of_readUnicode h
    simp only [List.length_cons]
    omega
  · split at h
    · simp only [Except.ok.injEq, Prod.mk.injEq] at h
      simp [h.2]
    · simp at h

def readText (cs : List Char) : Reading (List Char) :=
  match cs with
  | [] => .error { cause := .endInText, rest := [] }
  | '"' :: rest => .ok ([], rest)
  | '\\' :: rest =>
    match h : readEscape rest with
    | .error fault => .error fault
    | .ok (c, rest') =>
      have := length_of_readEscape h
      match readText rest' with
      | .error fault => .error fault
      | .ok (text, after) => .ok (c :: text, after)
  | c :: rest =>
    if c < ' ' then .error { cause := .controlCharacter, rest }
    else
      match readText rest with
      | .error fault => .error fault
      | .ok (text, after) => .ok (c :: text, after)
termination_by cs.length

theorem length_of_readText {cs after text : List Char} (h : readText cs = .ok (text, after)) :
    after.length < cs.length := by
  fun_induction readText cs generalizing text with
  | case1 => cases h
  | case2 => cases h; simp
  | case3 => cases h
  | case4 => cases h
  | case5 rest c rest' hrest hlt text' after' hread ih =>
    cases h
    have := ih hread
    simp only [List.length_cons]
    omega
  | case6 => cases h
  | case7 => cases h
  | case8 c rest _ _ _ text' after' hread ih =>
    cases h
    have := ih hread
    simp only [List.length_cons]
    omega

/-- The fault of a value that begins with `c` and is not of the expected kind.  Lists and
objects are not read to their end. -/
def mismatch (expected : String) (cs : List Char) : Fault :=
  let ofNumber (cs : List Char) (negative : Bool) : Fault :=
    match readNumber negative cs with
    | .ok (n, rest) => { cause := .wrongType (.number n) expected, rest }
    | .error fault => fault
  let ofWord (word : List Char) (found : Found) (cs : List Char) : Fault :=
    match readWord word cs with
    | .ok (_, rest) => { cause := .wrongType found expected, rest }
    | .error fault => fault
  match cs with
  | [] => { cause := .endInValue, rest := [] }
  | 'n' :: rest => ofWord ['u', 'l', 'l'] .null rest
  | 't' :: rest => ofWord ['r', 'u', 'e'] (.boolean true) rest
  | 'f' :: rest => ofWord ['a', 'l', 's', 'e'] (.boolean false) rest
  | '-' :: rest => ofNumber rest true
  | '"' :: rest =>
    match readText rest with
    | .ok (text, rest) => { cause := .wrongType (.text text) expected, rest }
    | .error fault => fault
  | '[' :: _ => { cause := .wrongType .list expected, rest := cs }
  | '\x7b' :: _ => { cause := .wrongType .object expected, rest := cs }
  | c :: _ => if c.isDigit then ofNumber cs false else faultAt .valueExpected cs

def readBoolean (cs : List Char) : Reading Bool :=
  match skipSpace cs with
  | 't' :: rest => (readWord ['r', 'u', 'e'] rest).map fun (_, rest) => (true, rest)
  | 'f' :: rest => (readWord ['a', 'l', 's', 'e'] rest).map fun (_, rest) => (false, rest)
  | other => .error (mismatch "a boolean" other)

/-- Reads a text that is a value; `expected` is what the value is to be. -/
def readTextValue (expected : String) (cs : List Char) : Reading (List Char) :=
  match skipSpace cs with
  | '"' :: rest => readText rest
  | other => .error (mismatch expected other)

def readOptional (read : List Char -> Reading α) (cs : List Char) : Reading (Option α) :=
  match skipSpace cs with
  | 'n' :: rest => (readWord ['u', 'l', 'l'] rest).map fun (_, rest) => (none, rest)
  | other => (read other).map fun (a, rest) => (some a, rest)

inductive Next where
  | item (cs : List Char)
  | finished (rest : List Char)
  deriving DecidableEq, Repr

def Next.remaining : Next -> List Char
  | item cs => cs
  | finished rest => rest

/-- Goes to the next item of a list, or past its end.  Before every item but the first
stands a comma. -/
def nextItem (first : Bool) (cs : List Char) : Except Fault Next :=
  match skipSpace cs with
  | [] => .error { cause := .endInList, rest := [] }
  | ']' :: rest => .ok (.finished rest)
  | c :: rest =>
    if first then .ok (.item (c :: rest))
    else if c = ',' then
      match skipSpace rest with
      | ']' :: after => .error (faultAt .trailingComma (']' :: after))
      | item => .ok (.item item)
    else .error (faultAt .listCommaExpected (c :: rest))

theorem length_skipSpace_le (cs : List Char) : (skipSpace cs).length ≤ cs.length :=
  (List.dropWhile_suffix _).length_le

theorem length_of_nextItem {first : Bool} {cs : List Char} {next : Next}
    (h : nextItem first cs = .ok next) : next.remaining.length ≤ cs.length := by
  have hs := length_skipSpace_le cs
  unfold nextItem at h
  split at h
  · cases h
  · next hcs =>
    cases h
    rw [hcs] at hs
    simp only [Next.remaining, List.length_cons] at hs ⊢
    omega
  · next c rest _ hcs =>
    rw [hcs] at hs
    split at h
    · cases h
      exact hs
    · split at h
      · have ht := length_skipSpace_le rest
        split at h
        · cases h
        · cases h
          simp only [Next.remaining, List.length_cons] at hs ⊢
          omega
      · cases h

theorem length_of_readTextValue {expected : String} {cs text rest : List Char}
    (h : readTextValue expected cs = .ok (text, rest)) : rest.length < cs.length := by
  have hs := length_skipSpace_le cs
  unfold readTextValue at h
  split at h
  · next hcs =>
    have := length_of_readText h
    rw [hcs] at hs
    simp only [List.length_cons] at hs
    omega
  · cases h

def readItems (expected : String) (first : Bool) (cs : List Char) :
    Reading (List (List Char)) :=
  match hnext : nextItem first cs with
  | .error fault => .error fault
  | .ok (.finished rest) => .ok ([], rest)
  | .ok (.item item) =>
    match hitem : readTextValue expected item with
    | .error fault => .error fault
    | .ok (text, rest) =>
      have : rest.length < cs.length :=
        Nat.lt_of_lt_of_le (length_of_readTextValue hitem) (length_of_nextItem hnext)
      match readItems expected false rest with
      | .error fault => .error fault
      | .ok (texts, after) => .ok (text :: texts, after)
termination_by cs.length

def readTexts (expected : String) (cs : List Char) : Reading (List (List Char)) :=
  match skipSpace cs with
  | '[' :: rest => readItems expected true rest
  | other => .error (mismatch "a sequence" other)

end Json
end CompileOnLoad
