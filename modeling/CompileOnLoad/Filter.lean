import CompileOnLoad.Policy.Basic
import CompileOnLoad.Text.Occurrence

/-!
# The filter

A loaded file is compiled if its path is known, ends with a suffix of source files, and is
not excluded by the policy.  Patterns that cannot say whether they match are passed over and
reported.
-/

namespace CompileOnLoad

inductive Verdict where
  | eligible
  | noPath
  | unrecognizedSuffix
  | excluded (index : Nat) (pattern : String)
  deriving DecidableEq, Repr

namespace Verdict

def isEligible (verdict : Verdict) : Bool := verdict = eligible

def display : Verdict -> String
  | eligible => "eligible"
  | noPath => "no source path"
  | unrecognizedSuffix => "not an interpretable source file"
  | excluded index pattern =>
    "excluded by pattern #" ++ toString index ++ " (" ++ pattern ++ ")"

end Verdict

/-- A verdict, with the patterns that could not say whether they match, each by its index. -/
structure Judgement where
  verdict : Verdict
  errors : List (Nat × PatternError) := []
  deriving DecidableEq, Repr

/-- The text of the path ends with a suffix; the empty suffix does not count. -/
def hasSourceSuffix (path : Path) (suffixes : List String) : Bool :=
  suffixes.any fun suffix => suffix ≠ "" && textEndsWith path.text suffix

section

variable {m : Type -> Type} [Monad m]

/-- Judges a path by patterns, the first of which has the given index.  How a pattern is asked
is given. -/
def judgeFromBy (ask : Nat -> Pattern -> m (Except PatternError Bool)) :
    Nat -> List Pattern -> m Judgement
  | _, [] => pure { verdict := .eligible }
  | index, pattern :: rest => do
    match ← ask index pattern with
    | .ok true => pure { verdict := .excluded index pattern.display }
    | .ok false => judgeFromBy ask (index + 1) rest
    | .error error =>
      let later ← judgeFromBy ask (index + 1) rest
      pure { later with errors := (index, error) :: later.errors }

def judgeBy (ask : Path -> Nat -> Pattern -> m (Except PatternError Bool))
    (path? : Option Path) (policy : Policy) (suffixes : List String) : m Judgement :=
  match path? with
  | none => pure { verdict := .noPath }
  | some path =>
    if hasSourceSuffix path suffixes then judgeFromBy (ask path) 0 policy.exclusions
    else pure { verdict := .unrecognizedSuffix }

end

def evaluating (path : Path) (_ : Nat) (pattern : Pattern) : Id (Except PatternError Bool) :=
  pure (pattern.evaluate path)

def judgeFrom (path : Path) (index : Nat) (patterns : List Pattern) : Judgement :=
  (judgeFromBy (evaluating path) index patterns).run

def judge (path? : Option Path) (policy : Policy) (suffixes : List String) : Judgement :=
  (judgeBy evaluating path? policy suffixes).run

theorem judgeFrom_cons (path : Path) (index : Nat) (pattern : Pattern) (rest : List Pattern) :
    judgeFrom path index (pattern :: rest) =
      match pattern.evaluate path with
      | .ok true => { verdict := .excluded index pattern.display }
      | .ok false => judgeFrom path (index + 1) rest
      | .error error =>
          { judgeFrom path (index + 1) rest with
            errors := (index, error) :: (judgeFrom path (index + 1) rest).errors } := by
  unfold judgeFrom
  rw [judgeFromBy]
  simp only [evaluating, pure_bind]
  cases pattern.evaluate path with
  | ok answer =>
      cases answer with
      | true => rfl
      | false => rfl
  | error error => rfl

theorem judge_none (policy : Policy) (suffixes : List String) :
    judge none policy suffixes = { verdict := .noPath } :=
  rfl

theorem judge_some (path : Path) (policy : Policy) (suffixes : List String) :
    judge (some path) policy suffixes =
      if hasSourceSuffix path suffixes then judgeFrom path 0 policy.exclusions
      else { verdict := .unrecognizedSuffix } := by
  unfold judge judgeBy
  simp only
  split
  · rfl
  · rfl

def verdictOf (path? : Option Path) (policy : Policy) (suffixes : List String) : Verdict :=
  (judge path? policy suffixes).verdict

def isEligible (path? : Option Path) (policy : Policy) (suffixes : List String) : Bool :=
  (verdictOf path? policy suffixes).isEligible

end CompileOnLoad
