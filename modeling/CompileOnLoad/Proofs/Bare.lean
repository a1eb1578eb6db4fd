import CompileOnLoad.Proofs.Quiet

/-!
# Hosts without their logging

The bare form of a host has no loggers, and its policies have no malformed
expressions.  Whatever a host logs, with whatever sinks, its bare form stays the
same, since a sink can at most remove malformed expressions.
-/

namespace CompileOnLoad

/-!
# Malformed expressions decide nothing
-/

namespace Pattern

theorem excludes_of_evaluate_ok {pattern : Pattern} {path : Path} {answer : Bool}
    (h : pattern.evaluate path = .ok answer) : pattern.excludes path = answer := by
  unfold excludes
  rw [h]

theorem excludes_of_evaluate_error {pattern : Pattern} {path : Path}
    {error : PatternError} (h : pattern.evaluate path = .error error) :
    pattern.excludes path = false := by
  unfold excludes
  rw [h]

theorem evaluate_of_isInvalid {pattern : Pattern} (hinvalid : pattern.isInvalid = true)
    (path : Path) : exists error, pattern.evaluate path = .error error := by
  cases pattern with
  | regex e =>
      simp only [isInvalid] at hinvalid
      simp only [evaluate]
      cases hcompiled : e.compiled with
      | ok compiled =>
          rw [hcompiled] at hinvalid
          cases hinvalid
      | error error => exact ⟨_, rfl⟩
  | under directory => cases hinvalid
  | exactly file => cases hinvalid
  | predicate name decide => cases hinvalid

theorem excludes_of_isInvalid {pattern : Pattern} (hinvalid : pattern.isInvalid = true)
    (path : Path) : pattern.excludes path = false := by
  rcases evaluate_of_isInvalid hinvalid path with ⟨error, herror⟩
  exact excludes_of_evaluate_error herror

end Pattern

namespace Policy

theorem prune_prune (policy : Policy) : policy.prune.prune = policy.prune := by
  simp [prune, retain, List.filter_filter]

theorem prune_empty : prune empty = empty := rfl

theorem prune_push (policy : Policy) (pattern : Pattern) :
    (policy.push pattern).prune = (policy.prune.push pattern).prune := by
  simp [prune, retain, push, List.filter_append, List.filter_filter]

end Policy

theorem isEligible_judgeFrom (path : Path) (index : Nat) (patterns : List Pattern) :
    (judgeFrom path index patterns).verdict.isEligible =
      patterns.all fun pattern => !pattern.excludes path := by
  induction patterns generalizing index with
  | nil => rfl
  | cons pattern rest ih =>
      rw [judgeFrom_cons, List.all_cons]
      cases hanswer : pattern.evaluate path with
      | ok answer =>
          rw [Pattern.excludes_of_evaluate_ok hanswer]
          cases answer with
          | true => simp [Verdict.isEligible]
          | false => simpa using ih (index + 1)
      | error error =>
          rw [Pattern.excludes_of_evaluate_error hanswer]
          simpa using ih (index + 1)

theorem isEligible_prune (path? : Option Path) (policy : Policy)
    (suffixes : List String) :
    isEligible path? policy.prune suffixes = isEligible path? policy suffixes := by
  unfold isEligible verdictOf
  cases path? with
  | none => rfl
  | some path =>
      rw [judge_some, judge_some]
      split
      · rw [isEligible_judgeFrom, isEligible_judgeFrom]
        unfold Policy.prune Policy.retain
        rw [List.all_filter]
        congr 1
        funext pattern
        cases hinvalid : pattern.isInvalid with
        | true => simp [Pattern.excludes_of_isInvalid hinvalid]
        | false => simp
      · rfl

/-!
# Bare contexts and hosts
-/

namespace Context

def bare (context : Context) : Context where
  policies := context.policies.map Policy.prune

theorem policy_bare (context : Context) (handle : Nat) :
    context.bare.policy handle = (context.policy handle).prune := by
  unfold policy bare
  simp only [List.getD_eq_getElem?_getD, List.getElem?_map]
  cases context.policies[handle]? with
  | none => exact Policy.prune_empty.symm
  | some policy => rfl

theorem map_prune_modify (policies : List Policy) (handle : Nat) :
    (policies.modify handle Policy.prune).map Policy.prune =
      policies.map Policy.prune := by
  apply List.ext_getElem?
  intro index
  simp only [List.getElem?_map, List.getElem?_modify]
  cases policies[index]? with
  | none => rfl
  | some policy =>
      by_cases hhandle : handle = index
      · simp [hhandle, Policy.prune_prune]
      · simp [hhandle]

theorem bare_receive (context : Context) (delivery : Log.Delivery) :
    (context.receive delivery).bare = context.bare := by
  unfold receive
  split
  · split
    · exact congrArg (Context.mk {}) (map_prune_modify context.policies _)
    · rfl
  · rfl

theorem bare_log (context : Context) (logger : Nat) (level : Log.Level)
    (target message : String) :
    (context.log logger level target message).bare = context.bare := by
  unfold log
  generalize context.logging.deliveries logger level target message = deliveries
  induction deliveries generalizing context with
  | nil => rfl
  | cons delivery rest ih =>
      rw [List.foldl_cons, ih, bare_receive]

end Context

namespace Host

variable {Key Memory β : Type}

def bare (host : Host Key Memory) : Host Key Memory :=
  { host with context := host.context.bare }

def SameBare (host host' : Host Key Memory) : Prop :=
  host.bare = host'.bare

namespace SameBare

variable {host host' host'' : Host Key Memory}

theorem symm (h : SameBare host host') : SameBare host' host :=
  Eq.symm h

theorem trans (h : SameBare host host') (h' : SameBare host' host'') :
    SameBare host host'' :=
  Eq.trans h h'

theorem eq (h : SameBare host host') (f : Host Key Memory -> β)
    (hf : forall host, f host.bare = f host) : f host = f host' := by
  rw [← hf host, ← hf host', show host.bare = host'.bare from h]

theorem map (h : SameBare host host') (f : Host Key Memory -> Host Key Memory)
    (hf : forall host, (f host).bare = f host.bare) :
    SameBare (f host) (f host') := by
  unfold SameBare
  rw [hf host, hf host', show host.bare = host'.bare from h]

end SameBare

theorem sameBare_log (host : Host Key Memory) (logger : Nat) (level : Log.Level)
    (target message : String) :
    SameBare (host.log logger level target message) host := by
  unfold SameBare log bare
  rw [Context.bare_log]

theorem sameBare_reportErrors (logger : Nat) (errors : List (Nat × PatternError))
    (host : Host Key Memory) :
    SameBare (Engine.reportErrors logger errors host) host := by
  unfold Engine.reportErrors
  induction errors generalizing host with
  | nil => rfl
  | cons error rest ih => exact (ih _).trans (sameBare_log host _ _ _ _)

theorem sameBare_reportVisit (path? : Option Path) (name : String)
    (disposition : Disposition) (host : Host Key Memory) :
    SameBare (reportVisit path? name disposition host) host := by
  unfold reportVisit
  cases disposition with
  | passThrough => exact sameBare_log _ _ _ _ _
  | handled => exact (sameBare_log _ _ _ _ _).trans (sameBare_log _ _ _ _ _)

theorem isEligible_bare (host : Host Key Memory) (engine : Nat)
    (path? : Option Path) :
    host.bare.isEligible engine path? = host.isEligible engine path? := by
  unfold isEligible policy
  rw [show host.bare.context = host.context.bare from rfl, Context.policy_bare,
    isEligible_prune]
  rfl

theorem SameBare.isEligible {host host' : Host Key Memory} (h : SameBare host host')
    (engine : Nat) (path? : Option Path) :
    host.isEligible engine path? = host'.isEligible engine path? :=
  h.eq (·.isEligible engine path?) fun host => isEligible_bare host engine path?

end Host
end CompileOnLoad
