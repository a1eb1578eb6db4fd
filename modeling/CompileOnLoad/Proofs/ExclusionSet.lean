import CompileOnLoad.Proofs.Judging

/-!
# Exclusions as a set

Whether a file is eligible depends on which patterns are among the exclusions of a
policy, and not on their order or on how often they are listed; a pattern that cannot
say whether it matches may as well not be there.

Removing the malformed expressions therefore spares every verdict.  It moves the
patterns behind them, so a verdict that names a pattern names it by its new place, and
no malformed expression is left to be reported.
-/

namespace CompileOnLoad

variable {path : Path}

/-!
# The same rules
-/

def Pattern.Decides (pattern : Pattern) (path : Path) : Prop :=
  exists answer, pattern.evaluate path = .ok answer

/-- The lists have the same patterns, but for those that cannot say of the path whether
they match. -/
def SameRules (path : Path) (patterns patterns' : List Pattern) : Prop :=
  forall pattern, pattern.Decides path -> (pattern ∈ patterns' <-> pattern ∈ patterns)

theorem Pattern.excludes_iff {pattern : Pattern} :
    pattern.excludes path = true <-> pattern.evaluate path = .ok true := by
  unfold excludes
  cases pattern.evaluate path with
  | ok answer => simp
  | error error => simp

theorem Pattern.decides_of_excludes {pattern : Pattern} (h : pattern.excludes path = true) :
    pattern.Decides path :=
  ⟨true, excludes_iff.mp h⟩

theorem Pattern.not_decides_of_isInvalid {pattern : Pattern}
    (h : pattern.isInvalid = true) : ¬ pattern.Decides path := by
  rintro ⟨answer, hanswer⟩
  rcases evaluate_of_isInvalid h path with ⟨error, hfails⟩
  rw [hfails] at hanswer
  cases hanswer

/-- A path is spared by the patterns if none of those that can decide matches it. -/
theorem all_not_excludes_eq {patterns patterns' : List Pattern}
    (h : SameRules path patterns patterns') :
    (patterns'.all fun pattern => !pattern.excludes path) =
      patterns.all fun pattern => !pattern.excludes path := by
  apply Bool.eq_iff_iff.mpr
  simp only [List.all_eq_true, Bool.not_eq_true']
  constructor
  · intro hspared pattern hmem
    apply Bool.eq_false_iff.mpr
    intro hexcludes
    have hmem' := (h pattern (Pattern.decides_of_excludes hexcludes)).mpr hmem
    exact Bool.eq_false_iff.mp (hspared pattern hmem') hexcludes
  · intro hspared pattern hmem
    apply Bool.eq_false_iff.mpr
    intro hexcludes
    have hmem' := (h pattern (Pattern.decides_of_excludes hexcludes)).mp hmem
    exact Bool.eq_false_iff.mp (hspared pattern hmem') hexcludes

theorem isEligible_some (path : Path) (policy : Policy) (suffixes : List String) :
    isEligible (some path) policy suffixes =
      (hasSourceSuffix path suffixes &&
        policy.exclusions.all fun pattern => !pattern.excludes path) := by
  unfold isEligible verdictOf
  rw [judge_some]
  split
  · next hsource => rw [isEligible_judgeFrom, hsource, Bool.true_and]
  · next hsource =>
      rw [Bool.not_eq_true] at hsource
      rw [hsource, Bool.false_and]
      rfl

/-!
# Removing malformed expressions
-/

def wellFormedOf (patterns : List Pattern) : List Pattern :=
  patterns.filter fun pattern => !pattern.isInvalid

/-- The place of a pattern once the malformed expressions before it are removed. -/
def placeAmong (patterns : List Pattern) (index : Nat) : Nat :=
  index - (patterns.take index).countP Pattern.isInvalid

def Verdict.renumbered (patterns : List Pattern) : Verdict -> Verdict
  | excluded index shown => excluded (placeAmong patterns index) shown
  | eligible => eligible
  | noPath => noPath
  | unrecognizedSuffix => unrecognizedSuffix

/-- The judgement by the patterns that are left of some once malformed expressions are
removed: these are not reported, and the others have their new places. -/
def Judgement.renumbered (judgement : Judgement) (patterns : List Pattern) : Judgement where
  verdict := judgement.verdict.renumbered patterns
  errors :=
    (judgement.errors.filter fun (index, _) => !patterns[index]?.any Pattern.isInvalid).map
    fun (index, error) => (placeAmong patterns index, error)

theorem placeAmong_length (before rest : List Pattern) :
    placeAmong (before ++ rest) before.length = (wellFormedOf before).length := by
  have hsplit := List.length_eq_countP_add_countP Pattern.isInvalid (l := before)
  have hleft : (wellFormedOf before).length = before.countP fun pattern =>
    !pattern.isInvalid := List.countP_eq_length_filter.symm
  unfold placeAmong
  rw [List.take_left, hleft]
  simp only [Bool.not_eq_true, Bool.decide_eq_false] at hsplit
  omega

theorem wellFormedOf_append (before rest : List Pattern) :
    wellFormedOf (before ++ rest) = wellFormedOf before ++ wellFormedOf rest :=
  List.filter_append _ _

theorem wellFormedOf_cons_of_isInvalid {pattern : Pattern} (h : pattern.isInvalid = true)
    (rest : List Pattern) : wellFormedOf (pattern :: rest) = wellFormedOf rest := by
  simp [wellFormedOf, h]

theorem wellFormedOf_cons_of_not_isInvalid {pattern : Pattern} (h : pattern.isInvalid = false)
    (rest : List Pattern) : wellFormedOf (pattern :: rest) = pattern ::
    wellFormedOf rest := by
  simp [wellFormedOf, h]

theorem renumbered_of_isInvalid {pattern : Pattern} (h : pattern.isInvalid = true)
    (before rest : List Pattern) (error : PatternError) (later : Judgement) :
    { later with errors := (before.length, error) :: later.errors }.renumbered
        (before ++ pattern :: rest) =
      later.renumbered (before ++ pattern :: rest) := by
  simp [Judgement.renumbered, h]

theorem renumbered_of_not_isInvalid {pattern : Pattern} (h : pattern.isInvalid = false)
    (before rest : List Pattern) (error : PatternError) (later : Judgement) :
    { later with errors := (before.length, error) :: later.errors }.renumbered
        (before ++ pattern :: rest) =
      { later.renumbered (before ++ pattern :: rest) with
        errors := ((wellFormedOf before).length, error) ::
          (later.renumbered (before ++ pattern :: rest)).errors } := by
  simp [Judgement.renumbered, placeAmong_length, h]

-- The induction is on the patterns that are still to be asked.  Those before them are
-- general: they fix the places on both sides, and grow with each step.
theorem judgeFrom_wellFormedOf (path : Path) (before patterns : List Pattern) :
    judgeFrom path (wellFormedOf before).length (wellFormedOf patterns) =
      (judgeFrom path before.length patterns).renumbered (before ++ patterns) := by
  induction patterns generalizing before with
  | nil => rfl
  | cons pattern rest ih =>
      have hlater := ih (before ++ [pattern])
      rw [List.append_assoc, List.singleton_append, List.length_append, List.length_singleton,
        wellFormedOf_append] at hlater
      cases hinvalid : pattern.isInvalid with
      | true =>
          rcases Pattern.evaluate_of_isInvalid hinvalid path with ⟨error, hfails⟩
          rw [wellFormedOf_cons_of_isInvalid hinvalid,
            show wellFormedOf [] = [] from rfl, List.append_nil] at hlater
          rw [wellFormedOf_cons_of_isInvalid hinvalid, hlater]
          simp only [judgeFrom_cons, hfails]
          exact (renumbered_of_isInvalid hinvalid before rest error _).symm
      | false =>
          rw [wellFormedOf_cons_of_not_isInvalid hinvalid, List.length_append] at hlater
          rw [wellFormedOf_cons_of_not_isInvalid hinvalid]
          rw [judgeFrom_cons, judgeFrom_cons]
          cases hanswer : pattern.evaluate path with
          | ok answer =>
              cases answer with
              | true =>
                  simp only [Judgement.renumbered, Verdict.renumbered, placeAmong_length]
                  rfl
              | false => exact hlater
          | error error =>
              simp only
              rw [renumbered_of_not_isInvalid hinvalid, ← hlater]
              rfl

theorem judge_prune (path? : Option Path) (policy : Policy) (suffixes : List String) :
    judge path? policy.prune suffixes =
      (judge path? policy suffixes).renumbered policy.exclusions := by
  cases path? with
  | none => rfl
  | some path =>
      rw [judge_some, judge_some]
      split
      · exact judgeFrom_wellFormedOf path [] policy.exclusions
      · rfl

/-!
# What is left to be reported
-/

theorem Pattern.exists_predicate {pattern : Pattern} {error : PatternError}
    (hfails : pattern.evaluate path = .error error) (hvalid : pattern.isInvalid = false) :
    exists name decide, pattern = .predicate name decide := by
  cases pattern with
  | regex e =>
      simp only [evaluate] at hfails
      cases hcompiled : e.compiled with
      | ok compiled =>
          rw [hcompiled] at hfails
          cases hfails
      | error fault =>
          simp only [isInvalid, hcompiled] at hvalid
          cases hvalid
  | under directory => cases hfails
  | exactly file => cases hfails
  | predicate name decide => exact ⟨name, decide, rfl⟩

theorem mem_failuresFrom {patterns : List Pattern} {index : Nat} {error : PatternError}
    (h : (index, error) ∈ failuresFrom path 0 patterns) :
    exists pattern, patterns[index]? = some pattern ∧
    pattern.evaluate path = .error error := by
  rcases List.mem_filterMap.mp h with ⟨⟨pattern, place⟩, hmem, hfailure⟩
  cases hanswer : pattern.evaluate path with
  | ok answer =>
      simp only [hanswer] at hfailure
      cases hfailure
  | error fault =>
      simp only [hanswer] at hfailure
      cases hfailure
      exact ⟨pattern, List.mk_mem_zipIdx_iff_getElem?.mp hmem, hanswer⟩

/-- What is reported of a file is a failure of the pattern at its place. -/
theorem fails_of_mem_errors {path? : Option Path} {policy : Policy} {suffixes : List String}
    {index : Nat} {error : PatternError}
    (h : (index, error) ∈ (judge path? policy suffixes).errors) :
    exists path pattern, path? = some path ∧ policy.exclusions[index]? = some pattern ∧
      pattern.evaluate path = .error error := by
  rw [(isDue_judge path? policy suffixes).errors] at h
  rcases List.mem_flatMap.mp h with ⟨path, hpath, hfailure⟩
  rcases mem_failuresFrom hfailure with ⟨pattern, hpattern, hfails⟩
  refine ⟨path, pattern, Option.mem_toList.mp hpath, ?_, hfails⟩
  rw [List.getElem?_take] at hpattern
  split at hpattern
  · exact hpattern
  · cases hpattern

theorem predicate_of_mem_errors_prune {path? : Option Path} {policy : Policy}
    {suffixes : List String} {index : Nat} {error : PatternError}
    (h : (index, error) ∈ (judge path? policy.prune suffixes).errors) :
    exists name decide, policy.prune.exclusions[index]? = some (.predicate name decide) := by
  rcases fails_of_mem_errors h with ⟨path, pattern, -, hpattern, hfails⟩
  have hkept := (List.mem_filter.mp (List.mem_of_getElem? hpattern)).2
  rw [Bool.not_eq_true'] at hkept
  rcases Pattern.exists_predicate hfails hkept with ⟨name, decide, hpredicate⟩
  rw [hpattern, hpredicate]
  exact ⟨name, decide, rfl⟩

/-!
# How exclusions act
-/

theorem isEligible_of_sameRules {path? : Option Path} {policy : Policy}
    {exclusions : List Pattern}
    (h : forall path, path? = some path -> SameRules path policy.exclusions exclusions)
    (suffixes : List String) :
    isEligible path? { policy with exclusions } suffixes =
      isEligible path? policy suffixes := by
  cases path? with
  | none => rfl
  | some path =>
      rw [isEligible_some, isEligible_some]
      exact congrArg (_ && ·) (all_not_excludes_eq (h path rfl))

theorem isEligible_push (path? : Option Path) (policy : Policy) (pattern : Pattern)
    (suffixes : List String) :
    isEligible path? (policy.push pattern) suffixes = true <->
      isEligible path? policy suffixes = true ∧
        forall path, path? = some path -> pattern.evaluate path ≠ .ok true := by
  cases path? with
  | none => simp [isEligible, verdictOf, judge_none, Verdict.isEligible]
  | some path =>
      rw [isEligible_some, isEligible_some]
      simp [Policy.push, ← Pattern.excludes_iff, and_assoc]

/-- Exclusions act as a set in which only those count that can decide, each takes away the
paths that it matches and no others, and malformed expressions can be removed: the judgement
stays as it was with new places for the patterns, and only predicates are reported. -/
theorem exclusions_act_as_set (path? : Option Path) (policy : Policy)
    (suffixes : List String) :
    (forall exclusions,
      (forall path, path? = some path -> SameRules path policy.exclusions exclusions) ->
      isEligible path? { policy with exclusions } suffixes =
        isEligible path? policy suffixes) ∧
    (forall pattern,
      isEligible path? (policy.push pattern) suffixes = true <->
        isEligible path? policy suffixes = true ∧
          forall path, path? = some path -> pattern.evaluate path ≠ .ok true) ∧
    verdictOf path? policy.prune suffixes =
      (verdictOf path? policy suffixes).renumbered policy.exclusions ∧
    judge path? policy.prune suffixes =
      (judge path? policy suffixes).renumbered policy.exclusions ∧
    (forall index error, (index, error) ∈ (judge path? policy.prune suffixes).errors ->
      exists name decide, policy.prune.exclusions[index]? = some (.predicate name decide)) ∧
    policy.prune.prune = policy.prune := by
  refine ⟨fun exclusions h => isEligible_of_sameRules h suffixes,
    fun pattern => isEligible_push path? policy pattern suffixes, ?_,
    judge_prune path? policy suffixes, fun index error => predicate_of_mem_errors_prune,
    Policy.prune_prune policy⟩
  exact congrArg Judgement.verdict (judge_prune path? policy suffixes)

namespace Policy

def initFile : Path := Path.ofString "/etc/init.el"

/-- Two malformed expressions, a predicate that fails, and rules that can decide. -/
def mixed : Policy where
  exclusions := [.ofRegex "[", .under (Path.ofString "/usr"),
    .predicate "flaky" fun _ => .ok (.error (.predicate "flaky" "no answer")),
    .ofRegex "(", .exactly initFile]

def reordered : List Pattern :=
  [.exactly initFile, .under (Path.ofString "/usr"), .exactly initFile]

theorem exclusions_act_as_set_mixed :
    SameRules initFile mixed.exclusions reordered ∧
    isEligible (some initFile) { mixed with exclusions := reordered } [".el"] =
      isEligible (some initFile) mixed [".el"] ∧
    verdictOf (some initFile) mixed [".el"] = .excluded 4 "file /etc/init.el" ∧
    verdictOf (some initFile) mixed.prune [".el"] = .excluded 2 "file /etc/init.el" ∧
    (judge (some initFile) mixed [".el"]).errors.map (·.1) = [0, 2, 3] ∧
    (judge (some initFile) mixed.prune [".el"]).errors.map (·.1) = [1] := by
  have hsame : SameRules initFile mixed.exclusions reordered := by
    intro pattern hdecides
    simp only [mixed, reordered, List.mem_cons, List.not_mem_nil, or_false]
    constructor
    · rintro (rfl | rfl | rfl)
      · simp
      · simp
      · simp
    · rintro (rfl | rfl | rfl | rfl | rfl)
      · exact absurd hdecides (Pattern.not_decides_of_isInvalid (by decide +kernel))
      · simp
      · rcases hdecides with ⟨answer, hanswer⟩
        cases hanswer
      · exact absurd hdecides (Pattern.not_decides_of_isInvalid (by decide +kernel))
      · simp
  rcases exclusions_act_as_set (some initFile) mixed [".el"]
    with ⟨hset, -, hverdict, hjudgement, -, -⟩
  refine ⟨hsame, hset reordered ?_, ?_, ?_, ?_, ?_⟩
  · rintro path ⟨⟩
    exact hsame
  · decide +kernel
  · rw [hverdict]
    decide +kernel
  · decide +kernel
  · rw [hjudgement]
    decide +kernel

end Policy
end CompileOnLoad
