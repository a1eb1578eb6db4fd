import CompileOnLoad.Policy.Basic

/-!
# What the policy of a document excludes

A document has four kinds of rules: the bootstrap file, directories, generated files, and
expressions.  They are tried in this order, and a path is excluded by the first that
applies to it.  Expressions that are malformed keep their places and exclude nothing.
-/

namespace CompileOnLoad

/-- The expression is well-formed, and some stretch of the text matches it. -/
def Regex.FoundIn (source text : String) : Prop :=
  exists e, compile source = .ok e ∧ isMatch e text = true

namespace Pattern

variable {path : Path}

theorem excludes_exactly {file : Path} :
    (exactly file).excludes path = true <-> path.components = file.components :=
  Path.sameAs_iff

theorem excludes_under {directory : Path} :
    (under directory).excludes path = true <->
      directory.components <+: path.components :=
  Path.isUnder_iff

theorem excludes_ofRegex {source : String} :
    (ofRegex source).excludes path = true <-> Regex.FoundIn source path.text := by
  unfold excludes ofRegex evaluate Expression.ofSource Regex.FoundIn
  simp only
  cases Regex.compile source with
  | ok e => simp
  | error error => simp

end Pattern

namespace Document

def directories (document : Document) : List Path :=
  document.systemDirectories.getD CompileOnLoad.systemDirectories

/-- The path is the bootstrap file, lies under a directory, is a generated file while
these are excluded, or is found by an expression. -/
def Excludes (document : Document) (path : Path) : Prop :=
  (exists file, document.bootstrapFile = some file ∧ path.components = file.components) ∨
    (exists directory, directory ∈ document.directories ∧
      directory.components <+: path.components) ∨
    (document.excludeGenerated = true ∧ Regex.FoundIn generatedMarker path.text) ∨
    exists source, source ∈ document.exclude ∧ Regex.FoundIn source path.text

def directoryPlace (document : Document) : Nat :=
  document.bootstrapFile.toList.length

def generatedPlace (document : Document) : Nat :=
  document.directoryPlace + document.directories.length

def expressionPlace (document : Document) : Nat :=
  document.generatedPlace + if document.excludeGenerated then 1 else 0

inductive Applies (document : Document) (path : Path) : Nat -> Prop where
  | bootstrap {file : Path} (given : document.bootstrapFile = some file)
      (same : path.components = file.components) : Applies document path 0
  | directory {i : Nat} {directory : Path}
      (listed : document.directories[i]? = some directory)
      (inside : directory.components <+: path.components) :
      Applies document path (document.directoryPlace + i)
  | generated (wanted : document.excludeGenerated = true)
      (marked : Regex.FoundIn generatedMarker path.text) :
      Applies document path document.generatedPlace
  | expression {i : Nat} {source : String} (listed : document.exclude[i]? = some source)
      (found : Regex.FoundIn source path.text) :
      Applies document path (document.expressionPlace + i)

end Document

namespace Policy

open Pattern

variable {document : Document} {path : Path} {index : Nat}

/-!
# The places of the patterns
-/

def bootstrapPatterns (document : Document) : List Pattern :=
  document.bootstrapFile.toList.map .exactly

def generatedPatterns (document : Document) : List Pattern :=
  if document.excludeGenerated then [.ofRegex generatedMarker] else []

theorem exclusions_ofDocument (document : Document) :
    (ofDocument document).exclusions =
      bootstrapPatterns document ++ (document.directories.map .under ++
        (generatedPatterns document ++ document.exclude.map .ofRegex)) := by
  simp only [ofDocument, List.append_assoc]
  rfl

theorem length_generatedPatterns (document : Document) :
    (generatedPatterns document).length = if document.excludeGenerated then 1 else 0 := by
  unfold generatedPatterns
  split
  · rfl
  · rfl

theorem getElem?_append_eq_some {first rest : List Pattern} {pattern : Pattern} :
    (first ++ rest)[index]? = some pattern <->
      first[index]? = some pattern ∨
        exists i, index = first.length + i ∧ rest[i]? = some pattern := by
  rcases Nat.lt_or_ge index first.length with hin | hout
  · rw [List.getElem?_append_left hin]
    constructor
    · exact .inl
    · rintro (hfirst | ⟨i, hi, -⟩)
      · exact hfirst
      · omega
  · rw [List.getElem?_append_right hout, List.getElem?_eq_none hout]
    constructor
    · intro hrest
      exact .inr ⟨index - first.length, by omega, hrest⟩
    · rintro (hfirst | ⟨i, hi, hrest⟩)
      · cases hfirst
      · rw [hi, Nat.add_sub_cancel_left]
        exact hrest

theorem exists_pattern_of_applies (h : document.Applies path index) :
    exists pattern, (ofDocument document).exclusions[index]? = some pattern ∧
      pattern.excludes path = true := by
  rw [exclusions_ofDocument]
  simp only [getElem?_append_eq_some]
  cases h with
  | @bootstrap file given same =>
      refine ⟨exactly file, .inl ?_, excludes_exactly.mpr same⟩
      rw [bootstrapPatterns, given]
      rfl
  | @directory i directory listed inside =>
      refine ⟨under directory, .inr ⟨i, ?_, .inl ?_⟩, excludes_under.mpr inside⟩
      · rw [bootstrapPatterns, List.length_map, Document.directoryPlace]
      · rw [List.getElem?_map, listed]
        rfl
  | generated wanted marked =>
      refine ⟨ofRegex generatedMarker,
        .inr ⟨document.directories.length, ?_, .inr ⟨0, ?_, .inl ?_⟩⟩,
        excludes_ofRegex.mpr marked⟩
      · rw [bootstrapPatterns, List.length_map, Document.generatedPlace,
          Document.directoryPlace]
      · rw [List.length_map, Nat.add_zero]
      · rw [generatedPatterns, wanted]
        rfl
  | @expression i source listed found =>
      refine ⟨ofRegex source, .inr ⟨document.directories.length +
        ((generatedPatterns document).length + i), ?_, .inr ⟨_, ?_, .inr ⟨i, rfl, ?_⟩⟩⟩,
          excludes_ofRegex.mpr found⟩
      · rw [bootstrapPatterns, List.length_map, length_generatedPatterns]
        simp only [Document.expressionPlace, Document.generatedPlace, Document.directoryPlace]
        omega
      · rw [List.length_map]
      · rw [List.getElem?_map, listed]
        rfl

theorem getElem?_singleton_eq_some {only pattern : Pattern} :
    [only][index]? = some pattern <-> index = 0 ∧ pattern = only := by
  cases index with
  | zero => simp [eq_comm]
  | succ index => simp

theorem applies_of_excludes {pattern : Pattern}
    (hpattern : (ofDocument document).exclusions[index]? = some pattern)
    (hexcludes : pattern.excludes path = true) : document.Applies path index := by
  rw [exclusions_ofDocument] at hpattern
  simp only [getElem?_append_eq_some, List.length_map, List.getElem?_map,
    Option.map_eq_some_iff] at hpattern
  rcases hpattern with hfile | ⟨i, rfl, ⟨directory, hlisted, rfl⟩ | ⟨j, rfl, hmarker |
    ⟨k, rfl, source, hlisted, rfl⟩⟩⟩
  · unfold bootstrapPatterns at hfile
    cases hgiven : document.bootstrapFile with
    | none =>
        rw [hgiven] at hfile
        cases hfile
    | some file =>
        rw [hgiven] at hfile
        rcases getElem?_singleton_eq_some.mp hfile with ⟨rfl, rfl⟩
        exact .bootstrap hgiven (excludes_exactly.mp hexcludes)
  · rw [bootstrapPatterns, List.length_map]
    exact .directory hlisted (excludes_under.mp hexcludes)
  · unfold generatedPatterns at hmarker
    split at hmarker
    · next hwanted =>
        rcases getElem?_singleton_eq_some.mp hmarker with ⟨rfl, rfl⟩
        rw [bootstrapPatterns, List.length_map, Nat.add_zero]
        exact .generated hwanted (excludes_ofRegex.mp hexcludes)
    · cases hmarker
  · rw [bootstrapPatterns, List.length_map, length_generatedPatterns, ← Nat.add_assoc,
      ← Nat.add_assoc]
    exact .expression hlisted (excludes_ofRegex.mp hexcludes)

theorem applies_iff :
    document.Applies path index <->
      exists pattern, (ofDocument document).exclusions[index]? = some pattern ∧
        pattern.excludes path = true := by
  constructor
  · exact exists_pattern_of_applies
  · rintro ⟨pattern, hpattern, hexcludes⟩
    exact applies_of_excludes hpattern hexcludes

/-!
# The first rule that applies
-/

theorem firstExclusion_eq_some_iff :
    (ofDocument document).firstExclusion path = some index <->
      document.Applies path index ∧
        forall earlier, earlier < index -> ¬ document.Applies path earlier := by
  unfold firstExclusion
  rw [List.findIdx?_eq_some_iff_getElem]
  simp only [applies_iff, List.getElem?_eq_some_iff]
  constructor
  · rintro ⟨hin, hexcludes, hearlier⟩
    refine ⟨⟨_, ⟨hin, rfl⟩, hexcludes⟩, ?_⟩
    rintro earlier hlt ⟨pattern, ⟨_, rfl⟩, hpattern⟩
    exact hearlier earlier hlt hpattern
  · rintro ⟨⟨pattern, ⟨hin, rfl⟩, hexcludes⟩, hearlier⟩
    refine ⟨hin, hexcludes, ?_⟩
    intro earlier hlt hpattern
    exact hearlier earlier hlt ⟨_, ⟨Nat.lt_trans hlt hin, rfl⟩, hpattern⟩

theorem isSome_firstExclusion_iff :
    ((ofDocument document).firstExclusion path).isSome = true <-> document.Excludes path := by
  have hfile : (exists pattern, pattern ∈ bootstrapPatterns document ∧
      pattern.excludes path = true) <->
        exists file, document.bootstrapFile = some file ∧
          path.components = file.components := by
    unfold bootstrapPatterns
    cases document.bootstrapFile with
    | none => simp
    | some file => simp [excludes_exactly]
  have hmarker : (exists pattern, pattern ∈ generatedPatterns document ∧
      pattern.excludes path = true) <->
        document.excludeGenerated = true ∧ Regex.FoundIn generatedMarker path.text := by
    unfold generatedPatterns
    split
    · next hwanted => simp [hwanted, excludes_ofRegex]
    · next hunwanted => simp [hunwanted]
  rw [firstExclusion, List.findIdx?_isSome, exclusions_ofDocument, Document.Excludes, ← hfile,
    ← hmarker]
  simp [excludes_under, excludes_ofRegex]

/-!
# Malformed expressions
-/

theorem isInvalid_ofRegex (source : String) :
    (ofRegex source).isInvalid = !(Regex.compile source).isOk := rfl

theorem isOk_compile_generatedMarker : (Regex.compile generatedMarker).isOk = true := by
  decide +kernel

theorem invalidPatterns_ofDocument (document : Document) :
    (ofDocument document).invalidPatterns =
      (document.exclude.filter fun source => !(Regex.compile source).isOk).map .ofRegex := by
  have hfile : (bootstrapPatterns document).filter isInvalid = [] := by
    simp [bootstrapPatterns, isInvalid]
  have hdirectories : (document.directories.map Pattern.under).filter isInvalid = [] := by
    simp [isInvalid]
  have hmarker : (generatedPatterns document).filter isInvalid = [] := by
    unfold generatedPatterns
    split
    · simp [isInvalid_ofRegex, isOk_compile_generatedMarker]
    · rfl
  rw [invalidPatterns, exclusions_ofDocument, List.filter_append, List.filter_append,
    List.filter_append, hfile, hdirectories, hmarker, List.filter_map]
  rfl

/-- The policy is what the document says. -/
structure Follows (policy : Policy) (document : Document) : Prop where
  excludes : forall path,
    (policy.firstExclusion path).isSome = true <-> document.Excludes path
  first : forall path index, policy.firstExclusion path = some index <->
    document.Applies path index ∧
      forall earlier, earlier < index -> ¬ document.Applies path earlier
  kept : policy.exclusions.drop document.expressionPlace = document.exclude.map .ofRegex
  invalid : policy.invalidPatterns =
    (document.exclude.filter fun source => !(Regex.compile source).isOk).map .ofRegex
  verbose : policy.verbose = document.verbose

theorem drop_expressionPlace (document : Document) :
    (ofDocument document).exclusions.drop document.expressionPlace =
      document.exclude.map .ofRegex := by
  have hlength : document.expressionPlace = (bootstrapPatterns document ++
      (document.directories.map Pattern.under ++ generatedPatterns document)).length := by
    simp only [List.length_append, List.length_map, length_generatedPatterns,
      bootstrapPatterns,
      Document.expressionPlace, Document.generatedPlace, Document.directoryPlace]
    omega
  rw [hlength, exclusions_ofDocument]
  simp only [← List.append_assoc]
  exact List.drop_left

/-- Every document gives a policy that follows it, and the reference policy is that of the
document which names a bootstrap file, if there is one, and nothing else. -/
theorem ofDocument_follows :
    (forall document, (ofDocument document).Follows document) ∧
    forall bootstrapFile,
      (reference bootstrapFile).exclusions = (ofDocument { bootstrapFile }).exclusions ∧
      (reference bootstrapFile).verbose = (ofDocument { bootstrapFile }).verbose := by
  constructor
  · intro document
    constructor
    case excludes => exact fun path => isSome_firstExclusion_iff
    case first => exact fun path index => firstExclusion_eq_some_iff
    case kept => exact drop_expressionPlace document
    case invalid => exact invalidPatterns_ofDocument document
    case verbose => rfl
  · intro bootstrapFile
    exact ⟨(List.append_nil _).symm, rfl⟩

end Policy
end CompileOnLoad
