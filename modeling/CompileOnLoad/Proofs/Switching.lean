import CompileOnLoad.Proofs.Execution

/-!
# Switching interceptors

Switching an interceptor on installs a hook and sweeps, switching it off takes the
hook out, and an interceptor that is already in the state asked for stays as it
is.
-/

namespace CompileOnLoad

variable {Key Memory : Type}

namespace Activation

variable {activation : Activation}

theorem exists_hook (h : activation.isActive = true) :
    exists hook, activation = .active hook := by
  cases activation with
  | inactive => cases h
  | active hook => exact ⟨hook, rfl⟩

theorem eq_inactive (h : activation.isActive = false) : activation = .inactive := by
  cases activation with
  | inactive => rfl
  | active hook => cases h

end Activation

namespace Host

def install (index : Nat) (host : Host Key Memory) : Host Key Memory :=
  (host.register Priority.reserved (.hook (host.interceptor index).engine)).2.setActivation
    index (.active host.pipeline.nextId)

def uninstall (index hook : Nat) (host : Host Key Memory) : Host Key Memory :=
  ((host.setActivation index .inactive).unregister hook).2

theorem interceptor_setActivation {host : Host Key Memory} {index : Nat}
    (hindex : index < host.interceptors.length) (activation : Activation) :
    (host.setActivation index activation).interceptor index =
      { host.interceptor index with activation } := by
  unfold Host.interceptor setActivation
  simp only [List.getD_eq_getElem?_getD, List.getElem?_modify,
    List.getElem?_eq_getElem hindex, if_true]
  rfl

theorem interceptor_setActivation_of_ne {host : Host Key Memory} {index other : Nat}
    (hne : index ≠ other) (activation : Activation) :
    (host.setActivation index activation).interceptor other = host.interceptor other := by
  unfold Host.interceptor setActivation
  simp only [List.getD_eq_getElem?_getD, List.getElem?_modify, if_neg hne]
  cases host.interceptors[other]? with
  | none => rfl
  | some found => rfl

theorem engine_interceptor_setActivation (host : Host Key Memory) (index other : Nat)
    (activation : Activation) :
    ((host.setActivation other activation).interceptor index).engine =
      (host.interceptor index).engine := by
  unfold setActivation Host.interceptor
  rw [List.getD_eq_getElem?_getD, List.getD_eq_getElem?_getD, List.getElem?_modify]
  cases host.interceptors[index]? with
  | none => rfl
  | some found => split <;> rfl

theorem activation_setActivation (host : Host Key Memory) (index other : Nat)
    (activation : Activation) :
    ((host.setActivation index activation).interceptor other).activation = activation ∨
      (host.setActivation index activation).interceptor other =
        host.interceptor other := by
  by_cases hindex : index = other
  · cases hindex
    by_cases hrange : index < host.interceptors.length
    · rw [interceptor_setActivation hrange]
      exact Or.inl rfl
    · right
      unfold Host.interceptor setActivation
      simp only [List.getD_eq_getElem?_getD, List.getElem?_modify, if_true,
        List.getElem?_eq_none (Nat.not_lt.mp hrange)]
      rfl
  · exact Or.inr (interceptor_setActivation_of_ne hindex activation)

theorem length_interceptors_install (host : Host Key Memory) (index : Nat) :
    (host.install index).interceptors.length = host.interceptors.length :=
  List.length_modify _ _ _

theorem length_interceptors_uninstall (host : Host Key Memory) (index hook : Nat) :
    (host.uninstall index hook).interceptors.length = host.interceptors.length :=
  List.length_modify _ _ _

end Host

/-!
# Nothing breaks off

An engine catches a compiler that breaks off, so giving files to engines does not
break off either.
-/

namespace Engine

variable (routines : Routines Key Memory) (perform : Performer Key Memory)

theorem compileEligible_ne_panicked (index : Nat) (source : Path)
    (host : Host Key Memory) (panic : Panic) :
    (compileEligible routines perform index source host).1 ≠ .panicked panic := by
  unfold compileEligible
  simp only
  generalize Script.run perform _ _ = compiled
  rcases compiled with ⟨ending, after⟩
  intro h
  cases ending with
  | returned answer =>
      cases answer with
      | ok artifact => cases h
      | error failure => cases h
  | panicked p => cases h
  | exhausted => cases h

theorem compile_ne_panicked (index : Nat) (path? : Option Path)
    (host : Host Key Memory) (panic : Panic) :
    (compile routines perform index path? host).1 ≠ .panicked panic := by
  unfold compile
  simp only
  split
  · exact compileEligible_ne_panicked routines perform index _ _ panic
  · intro h
    cases h

end Engine

namespace Interceptor

theorem sweepFiles_ne_panicked (routines : Routines Key Memory)
    (perform : Performer Key Memory) (engine : Nat) (files : List LoadedFile)
    (report : SweepReport) (host : Host Key Memory) (panic : Panic) :
    (sweepFiles routines perform engine report files host).1 ≠ .panicked panic := by
  induction files generalizing report host with
  | nil =>
      intro h
      cases h
  | cons file rest ih =>
      have hcompile := Engine.compile_ne_panicked routines perform engine
        (some file.source) host
      unfold sweepFiles Act.andThen
      rcases hrun : Engine.compile routines perform engine (some file.source) host
        with ⟨ending, after⟩
      rw [hrun] at hcompile
      cases ending with
      | returned outcome => exact ih (report.note outcome) after
      | panicked p => exact absurd rfl (hcompile p)
      | exhausted =>
          intro h
          cases h

theorem sweep_ne_panicked (routines : Routines Key Memory)
    (perform : Performer Key Memory) (index : Nat) (host : Host Key Memory)
    (panic : Panic) :
    (sweep routines perform index host).1 ≠ .panicked panic := by
  unfold sweep
  simp only
  have hfiles := sweepFiles_ne_panicked routines perform
    (host.interceptor index).engine host.history {}
    ((host.enterSpan (host.interceptor index).logger).log
      (host.interceptor index).logger .debug target
      ("sweeping " ++ toString host.history.length ++ " previously loaded files")) panic
  revert hfiles
  generalize sweepFiles routines perform _ _ _ _ = swept
  rcases swept with ⟨ending, after⟩
  intro hfiles h
  cases ending with
  | returned report => cases h
  | panicked p => exact hfiles h
  | exhausted => cases h

theorem sweepFiles_ne_exhausted {routines : Routines Key Memory} (hquiet : routines.Quiet)
    (perform : Performer Key Memory)
    (engine : Nat) (files : List LoadedFile) (report : SweepReport) (host : Host Key Memory) :
    (sweepFiles routines perform engine report files host).1 ≠ .exhausted := by
  induction files generalizing report host with
  | nil =>
      intro h
      cases h
  | cons file rest ih =>
      have hcompiled := (Engine.compile_quiet perform (hquiet.compile engine)
        (some file.source) host).1
      unfold sweepFiles
      rw [Act.andThen_of_returned (Prod.ext hcompiled rfl)]
      exact ih _ _

theorem sweep_ne_exhausted {routines : Routines Key Memory} (hquiet : routines.Quiet)
    (perform : Performer Key Memory) (index : Nat) (host : Host Key Memory) :
    (sweep routines perform index host).1 ≠ .exhausted := by
  have hfiles := sweepFiles_ne_exhausted hquiet perform (host.interceptor index).engine
    host.history {}
    ((host.enterSpan (host.interceptor index).logger).log (host.interceptor index).logger
      .debug target ("sweeping " ++ toString host.history.length ++
        " previously loaded files"))
  unfold sweep
  simp only
  revert hfiles
  generalize sweepFiles routines perform _ _ _ _ = swept
  rcases swept with ⟨ending, after⟩
  intro hfiles h
  cases ending with
  | returned report => cases h
  | panicked panic => cases h
  | exhausted => exact hfiles rfl

/-!
# What is switched
-/

theorem disable_of_inactive {index : Nat} {host : Host Key Memory}
    (h : (host.interceptor index).activation = .inactive) :
    disable index host = (false, host) := by
  unfold disable
  simp only [h]

theorem disable_of_active {index hook : Nat} {host : Host Key Memory}
    (h : (host.interceptor index).activation = .active hook) :
    (disable index host).1 = true ∧
      Host.SameBare (disable index host).2 (host.uninstall index hook) := by
  unfold disable
  simp only [h]
  refine ⟨trivial, (Host.sameBare_log _ _ _ _ _).trans ?_⟩
  split
  · rfl
  · exact Host.sameBare_log _ _ _ _ _

theorem activation_disable {index : Nat} {host : Host Key Memory}
    (hindex : index < host.interceptors.length) :
    ((disable index host).2.interceptor index).activation = .inactive := by
  cases hactivation : (host.interceptor index).activation with
  | inactive =>
      rw [disable_of_inactive hactivation]
      exact hactivation
  | active hook =>
      rw [(disable_of_active hactivation).2.eq (·.interceptor index) fun _ => rfl]
      exact congrArg Interceptor.activation (Host.interceptor_setActivation hindex _)

variable {routines : Routines Key Memory}

theorem enable_of_active (routines : Routines Key Memory)
    (perform : Performer Key Memory) {index hook : Nat} {host : Host Key Memory}
    (h : (host.interceptor index).activation = .active hook) :
    (enable routines perform index host).1 = .returned none ∧
      Host.SameBare (enable routines perform index host).2 host := by
  unfold enable
  simp only [h]
  exact ⟨rfl, Host.sameBare_log _ _ _ _ _⟩

theorem enable_of_inactive {perform : Performer Key Memory} {index : Nat}
    {host : Host Key Memory}
    (h : (host.interceptor index).activation = .inactive) :
    enable routines perform index host =
      ((sweep routines perform index).andThen fun report host =>
          (.returned (some report), host))
        ((host.install index).log (host.interceptor index).logger .info target
          "interception enabled") := by
  unfold enable
  simp only [h]
  rfl

theorem enable_ending_of_inactive (routines : Routines Key Memory)
    (perform : Performer Key Memory) {index : Nat} {host : Host Key Memory}
    (h : (host.interceptor index).activation = .inactive) :
    (enable routines perform index host).1 = .exhausted ∨
      exists report, (enable routines perform index host).1 = .returned (some report) := by
  rw [enable_of_inactive h, Act.andThen_map]
  have hswept := sweep_ne_panicked routines perform index
    ((host.install index).log (host.interceptor index).logger .info target
      "interception enabled")
  cases hending : (sweep routines perform index _).1 with
  | returned report => exact Or.inr ⟨report, rfl⟩
  | panicked p => exact absurd hending (hswept p)
  | exhausted => exact Or.inl rfl

theorem enable_ne_exhausted (hquiet : routines.Quiet) (perform : Performer Key Memory)
    {index : Nat} {host : Host Key Memory}
    (h : (host.interceptor index).activation = .inactive) :
    (enable routines perform index host).1 ≠ .exhausted := by
  have hswept := sweep_ne_exhausted hquiet perform index
    ((host.install index).log (host.interceptor index).logger .info target
      "interception enabled")
  rw [enable_of_inactive h, Act.andThen_map]
  revert hswept
  generalize sweep routines perform index _ = swept
  rcases swept with ⟨ending, after⟩
  intro hswept hexhausted
  cases ending with
  | returned report => cases hexhausted
  | panicked panic => cases hexhausted
  | exhausted => exact hswept rfl

theorem enable_moves (hquiet : routines.Quiet)
    (perform : Performer Key (Watched Key Memory)) {index : Nat}
    {host : Host Key (Watched Key Memory)}
    (h : (host.interceptor index).activation = .inactive) :
    exists report requests,
      (enable routines.watched perform index host).1 = .returned (some report) ∧
      Host.Moves (host.install index) (enable routines.watched perform index host).2
        (sweepings host.isEligible ((host.install index).interceptor index).engine
          host.history) requests ∧
      report.tally.compiled = requests.length := by
  have hlogged := Host.moves_of_sameBare
    (Host.sameBare_log (host.install index) (host.interceptor index).logger .info target
      "interception enabled")
  rcases sweep_moves hquiet perform index
    ((host.install index).log (host.interceptor index).logger .info target
      "interception enabled")
    with ⟨report, requests, hending, hmoves, hcount⟩
  rw [hlogged.isEligible_eq] at hmoves
  rw [enable_of_inactive h, Act.andThen_of_returned (Prod.ext hending rfl)]
  refine ⟨report, requests, rfl, ?_, hcount⟩
  exact hlogged.trans hmoves

end Interceptor
end CompileOnLoad
