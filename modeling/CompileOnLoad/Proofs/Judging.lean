import CompileOnLoad.Proofs.Bare

/-!
# What a judgement says

A file is judged by its path, by the suffix of its text, and then by the patterns of a
policy, one after the other, as far as the first that excludes it.  The verdict says how
far the judging went: patterns beyond that are not asked.  Of those that are asked, the
ones that cannot answer are reported, in order, and decide nothing.
-/

namespace CompileOnLoad

/-- The text of the path ends with one of the suffixes; the empty one does not count. -/
def Path.EndsInSource (path : Path) (suffixes : List String) : Prop :=
  exists suffix, suffix ∈ suffixes ∧ suffix ≠ "" ∧ suffix.toList <:+ path.text.toList

theorem hasSourceSuffix_iff {path : Path} {suffixes : List String} :
    hasSourceSuffix path suffixes = true <-> path.EndsInSource suffixes := by
  unfold hasSourceSuffix textEndsWith Path.EndsInSource
  simp [List.any_eq_true]

/-!
# Asking patterns one after the other
-/

def askedAbout (path : Path) (patterns : List Pattern) : Nat :=
  match patterns.findIdx? (·.excludes path) with
  | some index => index + 1
  | none => patterns.length

/-- The patterns that cannot say whether they match, each by its index, if the first of
the patterns has the given one. -/
def failuresFrom (path : Path) (index : Nat) (patterns : List Pattern) :
    List (Nat × PatternError) :=
  (patterns.zipIdx index).filterMap fun (pattern, index) =>
    match pattern.evaluate path with
    | .ok _ => none
    | .error error => some (index, error)

variable {path : Path} {pattern : Pattern}

theorem askedAbout_of_excludes (h : pattern.excludes path = true) (rest : List Pattern) :
    askedAbout path (pattern :: rest) = 1 := by
  unfold askedAbout
  rw [List.findIdx?_cons, h]
  rfl

theorem askedAbout_of_not_excludes (h : pattern.excludes path = false)
    (rest : List Pattern) :
    askedAbout path (pattern :: rest) = askedAbout path rest + 1 := by
  unfold askedAbout
  rw [List.findIdx?_cons, h]
  cases rest.findIdx? (·.excludes path) with
  | none => rfl
  | some index => rfl

theorem failuresFrom_of_ok {answer : Bool} (h : pattern.evaluate path = .ok answer)
    (index : Nat) (rest : List Pattern) :
    failuresFrom path index (pattern :: rest) = failuresFrom path (index + 1) rest := by
  unfold failuresFrom
  rw [List.zipIdx_cons]
  exact List.filterMap_cons_none (by simp only [h])

theorem failuresFrom_of_error {error : PatternError}
    (h : pattern.evaluate path = .error error) (index : Nat) (rest : List Pattern) :
    failuresFrom path index (pattern :: rest) =
      (index, error) :: failuresFrom path (index + 1) rest := by
  unfold failuresFrom
  rw [List.zipIdx_cons]
  exact List.filterMap_cons_some (by simp only [h])

/-- The patterns that fail are reported, as far as patterns are asked. -/
theorem errors_judgeFrom (path : Path) (index : Nat) (patterns : List Pattern) :
    (judgeFrom path index patterns).errors =
      failuresFrom path index (patterns.take (askedAbout path patterns)) := by
  induction patterns generalizing index with
  | nil => rfl
  | cons pattern rest ih =>
      rw [judgeFrom_cons]
      cases hanswer : pattern.evaluate path with
      | ok answer =>
          have hexcludes := Pattern.excludes_of_evaluate_ok hanswer
          cases answer with
          | true =>
              rw [askedAbout_of_excludes hexcludes, List.take_succ_cons,
                failuresFrom_of_ok hanswer]
              rfl
          | false =>
              rw [askedAbout_of_not_excludes hexcludes, List.take_succ_cons,
                failuresFrom_of_ok hanswer]
              exact ih (index + 1)
      | error error =>
          have hexcludes := Pattern.excludes_of_evaluate_error hanswer
          rw [askedAbout_of_not_excludes hexcludes, List.take_succ_cons,
            failuresFrom_of_error hanswer, ← ih]

theorem verdict_judgeFrom (path : Path) (index : Nat) (patterns : List Pattern) :
    (exists place pattern, patterns.findIdx? (·.excludes path) = some place ∧
      patterns[place]? = some pattern ∧
      (judgeFrom path index patterns).verdict = .excluded (index + place) pattern.display) ∨
    (patterns.findIdx? (·.excludes path) = none ∧
      (judgeFrom path index patterns).verdict = .eligible) := by
  induction patterns generalizing index with
  | nil => exact .inr ⟨rfl, rfl⟩
  | cons pattern rest ih =>
      have hlater (hexcludes : pattern.excludes path = false)
          (hverdict : (judgeFrom path index (pattern :: rest)).verdict =
            (judgeFrom path (index + 1) rest).verdict) :
          (exists place found, (pattern :: rest).findIdx? (·.excludes path) = some place ∧
            (pattern :: rest)[place]? = some found ∧
            (judgeFrom path index (pattern :: rest)).verdict =
              .excluded (index + place) found.display) ∨
          ((pattern :: rest).findIdx? (·.excludes path) = none ∧
            (judgeFrom path index (pattern :: rest)).verdict = .eligible) := by
        rw [List.findIdx?_cons, hexcludes, hverdict]
        rcases ih (index + 1) with ⟨place, found, hplace, hfound, hrest⟩ | ⟨hnone, hrest⟩
        · refine .inl ⟨place + 1, found, by simp [hplace], hfound, ?_⟩
          rw [hrest, Nat.add_assoc, Nat.add_comm 1]
        · exact .inr ⟨by simp [hnone], hrest⟩
      cases hanswer : pattern.evaluate path with
      | ok answer =>
          have hexcludes := Pattern.excludes_of_evaluate_ok hanswer
          cases answer with
          | true =>
              refine .inl ⟨0, pattern, ?_, rfl, ?_⟩
              · rw [List.findIdx?_cons, hexcludes]
                rfl
              · simp only [judgeFrom_cons, hanswer]
                rfl
          | false => exact hlater hexcludes (by simp only [judgeFrom_cons, hanswer])
      | error error =>
          exact hlater (Pattern.excludes_of_evaluate_error hanswer)
            (by simp only [judgeFrom_cons, hanswer])

/-!
# How far the judging goes
-/

def noting (path : Path) (index : Nat) (pattern : Pattern) :
    StateM (List Nat) (Except PatternError Bool) := do
  modify (· ++ [index])
  pure (pattern.evaluate path)

theorem run_noting_bind {α : Type} (path : Path) (index : Nat) (pattern : Pattern)
    (next : Except PatternError Bool -> StateM (List Nat) α) (noted : List Nat) :
    (noting path index pattern >>= next).run noted =
      (next (pattern.evaluate path)).run (noted ++ [index]) := rfl

-- The induction is on the patterns; what was noted before is general, since every pattern
-- that is asked adds its index to it.
theorem judgeFromBy_noting (path : Path) (index : Nat) (patterns : List Pattern)
    (noted : List Nat) :
    (judgeFromBy (noting path) index patterns).run noted =
      (judgeFrom path index patterns,
        noted ++ List.range' index (askedAbout path patterns)) := by
  induction patterns generalizing index noted with
  | nil => exact congrArg (_, ·) (List.append_nil noted).symm
  | cons pattern rest ih =>
      have hlater := ih (index + 1) (noted ++ [index])
      rw [List.append_assoc] at hlater
      rw [judgeFromBy, judgeFrom_cons, run_noting_bind]
      cases hanswer : pattern.evaluate path with
      | ok answer =>
          have hexcludes := Pattern.excludes_of_evaluate_ok hanswer
          cases answer with
          | true =>
              rw [askedAbout_of_excludes hexcludes]
              rfl
          | false =>
              rw [askedAbout_of_not_excludes hexcludes]
              exact hlater
      | error error =>
          have hexcludes := Pattern.excludes_of_evaluate_error hanswer
          rw [askedAbout_of_not_excludes hexcludes]
          exact congrArg (fun (judged : Judgement × List Nat) =>
            ({ judged.1 with errors := (index, error) :: judged.1.errors }, judged.2)) hlater

/-!
# What is due
-/

/-- How many of the patterns were asked before the verdict was given. -/
def Verdict.asked (patterns : Nat) : Verdict -> Nat
  | eligible => patterns
  | noPath => 0
  | unrecognizedSuffix => 0
  | excluded index _ => index + 1

structure Judgement.IsDue (judgement : Judgement) (path? : Option Path) (policy : Policy)
    (suffixes : List String) : Prop where
  noPath : judgement.verdict = .noPath <-> path? = none
  unrecognizedSuffix : judgement.verdict = .unrecognizedSuffix <->
    exists path, path? = some path ∧ ¬ path.EndsInSource suffixes
  excluded : forall index shown, judgement.verdict = .excluded index shown <->
    exists path pattern, path? = some path ∧ path.EndsInSource suffixes ∧
      policy.firstExclusion path = some index ∧
      policy.exclusions[index]? = some pattern ∧ shown = pattern.display
  eligible : judgement.verdict = .eligible <->
    exists path, path? = some path ∧ path.EndsInSource suffixes ∧
      policy.firstExclusion path = none
  errors : judgement.errors = path?.toList.flatMap fun path =>
    failuresFrom path 0
      (policy.exclusions.take (judgement.verdict.asked policy.exclusions.length))

theorem asked_judgeFrom (path : Path) (patterns : List Pattern) :
    (judgeFrom path 0 patterns).verdict.asked patterns.length = askedAbout path patterns := by
  unfold askedAbout
  rcases verdict_judgeFrom path 0 patterns with
    ⟨place, pattern, hplace, -, hverdict⟩ | ⟨hnone, hverdict⟩
  · rw [hverdict, hplace, Nat.zero_add]
    rfl
  · rw [hverdict, hnone]
    rfl

theorem isDue_noPath (policy : Policy) (suffixes : List String) :
    (judge none policy suffixes).IsDue none policy suffixes where
  noPath := by simp [judge_none]
  unrecognizedSuffix := by simp [judge_none]
  excluded := by simp [judge_none]
  eligible := by simp [judge_none]
  errors := rfl

theorem isDue_unrecognizedSuffix {path : Path} {suffixes : List String}
    (h : ¬ path.EndsInSource suffixes) (policy : Policy) :
    ({ verdict := .unrecognizedSuffix } : Judgement).IsDue (some path) policy suffixes where
  noPath := by simp
  unrecognizedSuffix := by simp [h]
  excluded := by simp [h]
  eligible := by simp [h]
  errors := rfl

theorem errors_due (path : Path) (policy : Policy) :
    (judgeFrom path 0 policy.exclusions).errors =
      (some path).toList.flatMap fun judged => failuresFrom judged 0 (policy.exclusions.take
        ((judgeFrom path 0 policy.exclusions).verdict.asked policy.exclusions.length)) := by
  simp only [Option.toList_some, List.flatMap_singleton]
  rw [asked_judgeFrom, errors_judgeFrom]

theorem isDue_excluded {path : Path} {suffixes : List String} (h : path.EndsInSource suffixes)
    {policy : Policy} {place : Nat} {pattern : Pattern}
    (hfirst : policy.firstExclusion path = some place)
    (hpattern : policy.exclusions[place]? = some pattern)
    (hverdict : (judgeFrom path 0 policy.exclusions).verdict =
      .excluded place pattern.display) :
    (judgeFrom path 0 policy.exclusions).IsDue (some path) policy suffixes where
  noPath := by simp [hverdict]
  unrecognizedSuffix := by simp [hverdict, h]
  excluded index shown := by
    rw [hverdict]
    constructor
    · intro hsame
      cases hsame
      exact ⟨path, pattern, rfl, h, hfirst, hpattern, rfl⟩
    · rintro ⟨_, other, hpath, -, hindex, hother, rfl⟩
      cases hpath
      rw [hfirst] at hindex
      cases hindex
      rw [hpattern] at hother
      cases hother
      rfl
  eligible := by simp [hverdict, hfirst]
  errors := errors_due path policy

theorem isDue_eligible {path : Path} {suffixes : List String} (h : path.EndsInSource suffixes)
    {policy : Policy} (hfirst : policy.firstExclusion path = none)
    (hverdict : (judgeFrom path 0 policy.exclusions).verdict = .eligible) :
    (judgeFrom path 0 policy.exclusions).IsDue (some path) policy suffixes where
  noPath := by simp [hverdict]
  unrecognizedSuffix := by simp [hverdict, h]
  excluded := by simp [hverdict, hfirst]
  eligible := by simp [hverdict, h, hfirst]
  errors := errors_due path policy

theorem isDue_judge (path? : Option Path) (policy : Policy) (suffixes : List String) :
    (judge path? policy suffixes).IsDue path? policy suffixes := by
  cases path? with
  | none => exact isDue_noPath policy suffixes
  | some path =>
      rw [judge_some]
      by_cases h : path.EndsInSource suffixes
      · simp only [hasSourceSuffix_iff.mpr h, if_true]
        rcases verdict_judgeFrom path 0 policy.exclusions with
          ⟨place, pattern, hplace, hpattern, hverdict⟩ | ⟨hnone, hverdict⟩
        · rw [Nat.zero_add] at hverdict
          exact isDue_excluded h hplace hpattern hverdict
        · exact isDue_eligible h hnone hverdict
      · simp only [mt hasSourceSuffix_iff.mp h]
        exact isDue_unrecognizedSuffix h policy

theorem judgeBy_noting (path? : Option Path) (policy : Policy) (suffixes : List String) :
    (judgeBy noting path? policy suffixes).run [] =
      (judge path? policy suffixes, List.range
        ((judge path? policy suffixes).verdict.asked policy.exclusions.length)) := by
  cases path? with
  | none => rfl
  | some path =>
      rw [judge_some, judgeBy]
      split
      · rw [judgeFromBy_noting, asked_judgeFrom, List.range_eq_range']
        rfl
      · rfl

/-- A file gets the judgement that is due to it, and just the patterns before the verdict
are asked, once each and in order.  Whoever wants no more than the verdict, or whether the
file is eligible, is told the same. -/
theorem judge_asks_and_decides (path? : Option Path) (policy : Policy)
    (suffixes : List String) :
    let judgement := judge path? policy suffixes
    judgement.IsDue path? policy suffixes ∧
    judgeBy (m := Id) (fun path _ pattern => pure (pattern.evaluate path))
      path? policy suffixes = pure judgement ∧
    (judgeBy noting path? policy suffixes).run [] =
      (judgement, List.range (judgement.verdict.asked policy.exclusions.length)) ∧
    verdictOf path? policy suffixes = judgement.verdict ∧
    (isEligible path? policy suffixes = true <-> judgement.verdict = .eligible) := by
  refine ⟨isDue_judge path? policy suffixes, rfl,
    judgeBy_noting path? policy suffixes, rfl, ?_⟩
  exact decide_eq_true_iff

end CompileOnLoad
