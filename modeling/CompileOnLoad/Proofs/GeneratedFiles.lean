import CompileOnLoad.Proofs.ExclusionSet
import CompileOnLoad.Proofs.LossyText
import CompileOnLoad.Proofs.RegexLanguages
import Mathlib.Data.List.DropRight

/-!
# The names of generated files

The last pattern of the reference policy is an expression.  It finds a marker right before a
suffix that goes to the end of the text and has one or more parts.  Neither the marker nor
the suffix has a separator, so the match lies in the last part of the path, and nothing else
of the path decides.
-/

namespace CompileOnLoad

open scoped Computability

def markers : List String := ["autoloads", "loaddefs", "pkg"]

/-- A `.` and some characters other than `.` and the separator. -/
def IsSuffixPart (part : List Char) : Prop :=
  exists body, part = '.' :: body ∧ body ≠ [] ∧ forall c, c ∈ body -> c ≠ '.' ∧ c ≠ '/'

def IsCompoundSuffix (suffix : List Char) : Prop :=
  exists parts : List (List Char), parts ≠ [] ∧
    (forall part, part ∈ parts -> IsSuffixPart part) ∧ suffix = parts.flatten

/-- The name has a marker right before its suffix. -/
def IsMarked (name : List Char) : Prop :=
  exists before marker suffix, marker ∈ markers ∧ IsCompoundSuffix suffix ∧
    name = before ++ '-' :: marker.toList ++ suffix

def lastPart (text : List Char) : List Char :=
  text.rtakeWhile (· ≠ '/')

namespace Regex

open CompileOnLoad.Regex.Expr

def bodyChars : CharSet := ⟨[0, 0x2E, 0x30, 0xD800, 0xE000, 0x110000]⟩

def suffixPart : Expr :=
  .seq (.chars (.single '.')) (.repetition (.chars bodyChars) 1 none)

def anyMarker : Expr :=
  .alt (ofWord "autoloads".toList) (.alt (ofWord "loaddefs".toList) (ofWord "pkg".toList))

def markerExpr : Expr :=
  .seq (.chars (.single '-'))
    (.seq anyMarker (.seq (.repetition suffixPart 1 none) (.condition .textEnd)))

theorem compile_generatedMarker : compile generatedMarker = .ok markerExpr := by
  decide +kernel

/-!
# What the expression matches
-/

theorem contains_bodyChars {c : Char} :
    bodyChars.contains c = true <-> c ≠ '.' ∧ c ≠ '/' := by
  have hdot : c = '.' <-> c.toNat = 0x2E :=
    ⟨congrArg Char.toNat, (Char.toNat_inj (d := '.')).mp⟩
  have hslash : c = '/' <-> c.toNat = 0x2F :=
    ⟨congrArg Char.toNat, (Char.toNat_inj (d := '/')).mp⟩
  rw [ne_eq, ne_eq, hdot, hslash, CharSet.contains, bodyChars]
  have hvalid : c.toNat < 0xD800 ∨ (0xDFFF < c.toNat ∧ c.toNat < 0x110000) := c.valid
  simp only [CharSet.isInside]
  grind

def suffixParts : Language Char := fun word => IsSuffixPart word

theorem describes_suffixPart : suffixPart.Describes suffixParts := by
  have hwords : ({['.']} : Language Char) * (oneOf bodyChars * (oneOf bodyChars)∗) =
      suffixParts := by
    ext word
    rw [Language.mem_mul]
    simp only [mem_singleton, exists_eq_left, mem_oneOrMore_oneOf, contains_bodyChars]
    constructor
    · rintro ⟨body, ⟨hne, hbody⟩, rfl⟩
      exact ⟨body, rfl, hne, hbody⟩
    · rintro ⟨body, rfl, hne, hbody⟩
      exact ⟨body, ⟨hne, hbody⟩, rfl⟩
  exact hwords ▸ (describes_single '.').seq (describes_chars bodyChars).oneOrMore

def compoundSuffixes : Language Char := fun word => IsCompoundSuffix word

theorem describes_compoundSuffix :
    (repetition suffixPart 1 none).Describes compoundSuffixes := by
  have hwords : suffixParts * suffixParts∗ = compoundSuffixes := by
    ext word
    exact mem_oneOrMore
  exact hwords ▸ describes_suffixPart.oneOrMore

def markerWords : Language Char := fun word =>
  exists marker, marker ∈ markers ∧ word = marker.toList

theorem describes_anyMarker : anyMarker.Describes markerWords := by
  have hwords : ({"autoloads".toList} +
    ({"loaddefs".toList} + {"pkg".toList}) : Language Char) =
      markerWords := by
    ext word
    simp only [Language.mem_add, mem_singleton]
    change _ <-> exists marker, marker ∈ markers ∧ word = marker.toList
    simp [markers]
  exact hwords ▸ (describes_ofWord _).alt ((describes_ofWord _).alt (describes_ofWord _))

def markedEnds : Language Char := {['-']} * markerWords * compoundSuffixes

theorem mem_markedEnds {word : List Char} :
    word ∈ markedEnds <-> exists marker suffix, marker ∈ markers ∧ IsCompoundSuffix suffix ∧
      word = '-' :: marker.toList ++ suffix := by
  constructor
  · intro hword
    rcases Language.mem_mul.mp hword with ⟨_, hfirst, suffix, hsuffix, rfl⟩
    rcases Language.mem_mul.mp hfirst with ⟨_, rfl, _, ⟨marker, hmarker, rfl⟩, rfl⟩
    exact ⟨marker, suffix, hmarker, hsuffix, rfl⟩
  · rintro ⟨marker, suffix, hmarker, hsuffix, rfl⟩
    have hdash : ['-'] ++ marker.toList ∈ {['-']} * markerWords :=
      Language.append_mem_mul (mem_singleton.mpr rfl) ⟨marker, hmarker, rfl⟩
    exact Language.append_mem_mul hdash hsuffix

theorem matches_markerExpr {text : List Char} {i j : Nat} (hi : i ≤ text.length) :
    Matches text markerExpr i j <->
      j = text.length ∧ exists word, word ∈ markedEnds ∧ IsBetween text i j word := by
  have hdescribes : (seq (seq (.chars (.single '-')) anyMarker)
      (.repetition suffixPart 1 none)).Describes markedEnds :=
    ((describes_single '-').seq describes_anyMarker).seq describes_compoundSuffix
  rw [markerExpr, matches_seq_assoc, matches_seq_assoc, matches_atEnd hi,
    hdescribes text i j hi]

theorem occursIn_markerExpr {text : List Char} :
    markerExpr.occursIn text = true <-> IsMarked text := by
  rw [occursIn_iff (by simp [markerExpr, anyMarker, suffixPart, InOrder, ofWord])]
  constructor
  · rintro ⟨i, j, hi, hmatch⟩
    rcases (matches_markerExpr hi).mp hmatch with ⟨rfl, word, hword, hbetween⟩
    rcases mem_markedEnds.mp hword with ⟨marker, suffix, hmarker, hsuffix, rfl⟩
    rcases hbetween with ⟨before, after, htext, -, hlength⟩
    have hafter : after = [] := by
      have htotal := congrArg List.length htext
      simp only [List.length_append] at htotal hlength
      exact List.length_eq_zero_iff.mp (by omega)
    subst hafter
    rw [List.append_nil] at htext
    exact ⟨before, marker, suffix, hmarker, hsuffix, by simpa using htext⟩
  · rintro ⟨before, marker, suffix, hmarker, hsuffix, rfl⟩
    have hword := mem_markedEnds.mpr ⟨marker, suffix, hmarker, hsuffix, rfl⟩
    refine ⟨before.length, _, by simp, (matches_markerExpr (by simp)).mpr ⟨rfl, _, hword, ?_⟩⟩
    exact ⟨before, [], by simp, rfl, by simp⟩

end Regex

/-!
# The last part of a path
-/

theorem IsSuffixPart.not_mem {part : List Char} (h : IsSuffixPart part) : '/' ∉ part := by
  rcases h with ⟨body, rfl, -, hbody⟩
  intro hmem
  rcases List.mem_cons.mp hmem with hdot | hmem
  · cases hdot
  · exact (hbody '/' hmem).2 rfl

theorem IsCompoundSuffix.not_mem {suffix : List Char} (h : IsCompoundSuffix suffix) :
    '/' ∉ suffix := by
  rcases h with ⟨parts, -, hparts, rfl⟩
  intro hmem
  rcases List.mem_flatten.mp hmem with ⟨part, hpart, hmem⟩
  exact (hparts part hpart).not_mem hmem

theorem IsCompoundSuffix.ne_nil {suffix : List Char} (h : IsCompoundSuffix suffix) :
    suffix ≠ [] := by
  rcases h with ⟨parts, hne, hparts, rfl⟩
  cases parts with
  | nil => exact absurd rfl hne
  | cons part rest =>
      rcases hparts part (List.mem_cons_self ..) with ⟨body, rfl, -, -⟩
      exact List.cons_ne_nil _ _

theorem not_mem_marker {marker : String} (h : marker ∈ markers) :
    '/' ∉ '-' :: marker.toList := by
  revert marker
  decide

theorem lastPart_append {text after : List Char} (h : '/' ∉ after) :
    lastPart (text ++ after) = lastPart text ++ after := by
  have hall : forall c, c ∈ after.reverse -> (decide (c ≠ '/')) = true := by
    intro c hc
    rw [decide_eq_true_eq]
    rintro rfl
    exact h (List.mem_reverse.mp hc)
  rw [lastPart, lastPart, List.rtakeWhile, List.rtakeWhile, List.reverse_append,
    List.takeWhile_append_of_pos hall, List.reverse_append, List.reverse_reverse]

theorem isMarked_lastPart {text : List Char} :
    IsMarked (lastPart text) <-> IsMarked text := by
  constructor
  · rintro ⟨before, marker, suffix, hmarker, hsuffix, hname⟩
    have hlast : lastPart text <:+ text := List.rtakeWhile_suffix (· ≠ '/') text
    rcases hlast with ⟨directory, hdirectory⟩
    refine ⟨directory ++ before, marker, suffix, hmarker, hsuffix, ?_⟩
    rw [← hdirectory, hname]
    simp
  · rintro ⟨before, marker, suffix, hmarker, hsuffix, rfl⟩
    refine ⟨lastPart before, marker, suffix, hmarker, hsuffix, ?_⟩
    rw [lastPart_append hsuffix.not_mem, lastPart_append (not_mem_marker hmarker)]

namespace Utf8

theorem ShownAs.not_mem_separator {bytes : List UInt8} {cs : List Char} (h : ShownAs bytes cs)
    (hbytes : Path.slash ∉ bytes) : '/' ∉ cs := by
  induction h with
  | nil => simp
  | char c later ih =>
      rw [List.mem_append, not_or] at hbytes
      rw [List.mem_cons, not_or]
      refine ⟨?_, ih hbytes.2⟩
      rintro rfl
      exact hbytes.1 (by decide)
  | invalid broken later ih =>
      rw [List.mem_append, not_or] at hbytes
      rw [List.mem_cons, not_or]
      exact ⟨by decide, ih hbytes.2⟩

theorem shown_separator (directory file : List UInt8) :
    shown (directory ++ Path.slash :: file) = shown directory ++ '/' :: shown file := by
  have hfile : ShownAs (Path.slash :: file) ('/' :: shown file) :=
    .char '/' (shownAs_shown file)
  have hafresh : StartsAfresh (Path.slash :: file) := by
    rintro _ ⟨⟩
    decide
  exact ((shownAs_shown directory).append hfile hafresh).eq_shown.symm

end Utf8

theorem lastPart_file {directory file : List UInt8} (h : Path.slash ∉ file) :
    lastPart (Path.text ⟨directory ++ Path.slash :: file⟩).toList = Utf8.shown file := by
  have hfile : '/' ∉ Utf8.shown file := (Utf8.shownAs_shown file).not_mem_separator h
  rw [Path.toList_text, Utf8.shown_separator, List.append_cons, lastPart_append hfile]
  simp [lastPart]

/-!
# The pattern of the reference policy
-/

theorem evaluate_generatedMarker (path : Path) :
    exists answer, (Pattern.ofRegex generatedMarker).evaluate path = .ok answer ∧
      (answer = true <-> IsMarked (lastPart path.text.toList)) := by
  refine ⟨Regex.isMatch Regex.markerExpr path.text, ?_, ?_⟩
  · simp only [Pattern.ofRegex, Pattern.evaluate, Expression.ofSource,
      Regex.compile_generatedMarker]
  · rw [Regex.isMatch, Regex.occursIn_markerExpr, isMarked_lastPart]

theorem excludes_generatedMarker {path : Path} :
    (Pattern.ofRegex generatedMarker).excludes path = true <->
      IsMarked (lastPart path.text.toList) := by
  rcases evaluate_generatedMarker path with ⟨answer, hanswer, hiff⟩
  rw [Pattern.excludes, hanswer]
  exact hiff

def markedFile (directory name : List UInt8) (marker suffix : String) : Path :=
  ⟨directory ++ Path.slash :: name ++ Utf8.encode ('-' :: marker.toList ++ suffix.toList)⟩

theorem text_markedFile (directory name : List UInt8) (marker suffix : String) :
    (markedFile directory name marker suffix).text.toList =
      Utf8.shown (directory ++ Path.slash :: name) ++ '-' :: marker.toList ++
        suffix.toList := by
  rw [Path.toList_text, markedFile, Utf8.shown_append_encode, List.append_assoc]

theorem not_isEligible_markedFile {marker suffix : String} {suffixes : List String}
    (hsuffix : IsCompoundSuffix suffix.toList) (hmarker : marker ∈ markers)
    (directory name : List UInt8) :
    isEligible (some (markedFile directory name marker suffix)) .standard suffixes =
      false := by
  have hmarked :
      IsMarked (lastPart (markedFile directory name marker suffix).text.toList) := by
    rw [isMarked_lastPart, text_markedFile]
    exact ⟨_, marker, suffix.toList, hmarker, hsuffix, rfl⟩
  have hpattern : Pattern.ofRegex generatedMarker ∈ Policy.standard.exclusions :=
    List.mem_append_right _ (List.mem_singleton.mpr rfl)
  rw [isEligible_some, Bool.and_eq_false_iff, List.all_eq_false]
  exact .inr ⟨_, hpattern, by simp [excludes_generatedMarker.mpr hmarked]⟩

theorem hasSourceSuffix_markedFile {marker suffix : String} {suffixes : List String}
    (hmem : suffix ∈ suffixes) (hsuffix : IsCompoundSuffix suffix.toList)
    (directory name : List UInt8) :
    hasSourceSuffix (markedFile directory name marker suffix) suffixes = true := by
  rw [hasSourceSuffix_iff]
  refine ⟨suffix, hmem, ?_, ?_⟩
  · rintro rfl
    exact hsuffix.ne_nil rfl
  · rw [text_markedFile]
    exact List.suffix_append _ _

/-- The last pattern of the reference policy matches the paths whose last part is marked.  A
marked file is not compiled whatever its directory and the rest of its name, and a marker in
the directory does not make the pattern match. -/
theorem generatedMarker_covers_marked_names :
    (forall bootstrapFile,
      (Policy.reference bootstrapFile).exclusions.getLast? =
        some (Pattern.ofRegex generatedMarker)) ∧
      (forall path, exists answer,
        (Pattern.ofRegex generatedMarker).evaluate path = .ok answer ∧
          (answer = true <-> IsMarked (lastPart path.text.toList))) ∧
      (forall suffixes suffix directory name marker, suffix ∈ suffixes ->
        IsCompoundSuffix suffix.toList -> marker ∈ markers ->
          hasSourceSuffix (markedFile directory name marker suffix) suffixes = true ∧
            isEligible (some (markedFile directory name marker suffix)) .standard suffixes =
              false) ∧
      (forall directory file, Path.slash ∉ file ->
        ((Pattern.ofRegex generatedMarker).evaluate ⟨directory ++ Path.slash :: file⟩ =
          .ok true <-> IsMarked (Utf8.shown file))) := by
  refine ⟨?_, evaluate_generatedMarker, ?_, ?_⟩
  · intro bootstrapFile
    exact List.getLast?_concat
  · intro suffixes suffix directory name marker hmem hsuffix hmarker
    exact ⟨hasSourceSuffix_markedFile hmem hsuffix directory name,
      not_isEligible_markedFile hsuffix hmarker directory name⟩
  · intro directory file hfile
    rw [← lastPart_file hfile, ← Pattern.excludes_iff]
    exact excludes_generatedMarker

/-- A name with two markers, of which only the one before the suffix counts. -/
theorem generatedMarker_covers_marked_names_twice :
    hasSourceSuffix (markedFile [] (Utf8.encode "my-pkg".toList) "loaddefs" ".el.gz")
        [".el", ".el.gz"] = true ∧
      isEligible (some (markedFile [] (Utf8.encode "my-pkg".toList) "loaddefs" ".el.gz"))
        .standard [".el", ".el.gz"] = false := by
  have hsuffix : IsCompoundSuffix ".el.gz".toList := by
    refine ⟨[".el".toList, ".gz".toList], by decide, ?_, by decide⟩
    intro part hpart
    rcases List.mem_pair.mp hpart with rfl | rfl
    · exact ⟨"el".toList, by decide, by decide, by simp⟩
    · exact ⟨"gz".toList, by decide, by decide, by simp⟩
  exact generatedMarker_covers_marked_names.2.2.1 [".el", ".el.gz"] ".el.gz" []
    (Utf8.encode "my-pkg".toList) "loaddefs" (by decide) hsuffix (by decide)

end CompileOnLoad
