import CompileOnLoad.Proofs.Correspondence

/-!
# The depth to which calls are nested

A bound on how deep calls may be nested does not change what they do: whatever ends in some
other way than at the bound ends so with every greater bound, and leaves the same host.
-/

namespace CompileOnLoad

variable {Key Memory α β : Type}

namespace Act

/-- The second act does what the first does wherever that is not cut off. -/
def Extends (act act' : Act Key Memory α) : Prop :=
  forall host, (act host).1 ≠ .exhausted -> act' host = act host

theorem extends_refl (act : Act Key Memory α) : act.Extends act := by
  intro host _
  rfl

theorem Extends.trans {act act' act'' : Act Key Memory α} (h : act.Extends act')
    (h' : act'.Extends act'') : act.Extends act'' := by
  intro host hended
  have hsame := h host hended
  rw [← hsame] at hended
  exact (h' host hended).trans hsame

theorem extends_andThen {act act' : Act Key Memory α} {next next' : α -> Act Key Memory β}
    (hact : act.Extends act') (hnext : forall a, (next a).Extends (next' a)) :
    (act.andThen next).Extends (act'.andThen next') := by
  intro host hended
  have hfirst := hact host
  unfold andThen at hended ⊢
  rcases hrun : act host with ⟨ending, after⟩
  rw [hrun] at hended hfirst
  cases ending with
  | returned a =>
      rw [hfirst nofun]
      exact hnext a after hended
  | panicked panic => rw [hfirst nofun]
  | exhausted => exact absurd rfl hended

end Act

section

variable {perform perform' : Performer Key Memory}

theorem Script.extends_run (hcalls : forall call, (perform call).Extends (perform' call))
    (script : Script Key Memory α) : (script.run perform).Extends (script.run perform') := by
  induction script with
  | done a => exact Act.extends_refl _
  | panic p => exact Act.extends_refl _
  | consult next ih =>
      intro host
      exact ih host.memory host
  | store memory next ih =>
      intro host
      exact ih { host with memory }
  | call c next ih => exact Act.extends_andThen (hcalls c) ih

variable (routines : Routines Key Memory)
variable (hcalls : forall call, (perform call).Extends (perform' call))

include hcalls

namespace Engine

theorem extends_compileEligible (index : Nat) (source : Path) :
    (compileEligible routines perform index source).Extends
      (compileEligible routines perform' index source) := by
  intro host hended
  have hscript := (routines.compile index source).extends_run hcalls
    (host.enterSpan (host.engine index).logger)
  unfold compileEligible at hended ⊢
  rcases hrun : (routines.compile index source).run perform
    (host.enterSpan (host.engine index).logger) with ⟨ending, after⟩
  rw [hrun] at hscript
  simp only [hrun] at hended ⊢
  cases ending with
  | returned result => rw [hscript nofun]
  | panicked panic => rw [hscript nofun]
  | exhausted => exact absurd rfl hended

theorem extends_compile (index : Nat) (path? : Option Path) :
    (compile routines perform index path?).Extends
      (compile routines perform' index path?) := by
  intro host
  unfold compile
  simp only
  split
  · exact extends_compileEligible routines hcalls index _ _
  · exact Act.extends_refl _ _

end Engine

namespace Host

theorem extends_visit (path? : Option Path) (observer : Observer Key) :
    (visit routines perform path? observer).Extends
      (visit routines perform' path? observer) := by
  cases observer with
  | hook engine =>
      exact Act.extends_andThen (Engine.extends_compile routines hcalls engine path?)
        fun outcome => Act.extends_refl _
  | action name key => exact (routines.observe key path?).extends_run hcalls

theorem extends_visitAll (path? : Option Path) (observers : List (Observer Key)) :
    (visitAll routines perform path? observers).Extends
      (visitAll routines perform' path? observers) := by
  induction observers with
  | nil => exact Act.extends_refl _
  | cons observer rest ih =>
      apply Act.extends_andThen (extends_visit routines hcalls path? observer)
      intro disposition host
      cases disposition with
      | handled => exact Act.extends_refl _ _
      | passThrough => exact Act.extends_andThen ih (fun report => Act.extends_refl _) _

theorem extends_announce (path? : Option Path) :
    (announce routines perform path?).Extends (announce routines perform' path?) := by
  intro host
  exact extends_visitAll routines hcalls path? host.pipeline.observers host

theorem extends_execute (artifact : Path) :
    (execute routines perform artifact).Extends (execute routines perform' artifact) := by
  apply Act.extends_andThen ((routines.link artifact).extends_run hcalls)
  intro linked host
  cases linked with
  | ok answer =>
      exact Act.extends_andThen (extends_announce routines hcalls (some artifact))
        (fun report => Act.extends_refl _) _
  | error failure => exact Act.extends_refl _ _

theorem extends_runRequests (n : Nat) :
    (runRequests routines perform n).Extends (runRequests routines perform' n) := by
  induction n with
  | zero => exact Act.extends_refl _
  | succ n ih =>
      intro host
      unfold runRequests
      split
      · exact Act.extends_refl _ _
      · apply Act.extends_andThen (extends_execute routines hcalls _)
        intro result
        exact Act.extends_andThen ih fun report => Act.extends_refl _

end Host

end

namespace Host

variable (routines : Routines Key Memory)

theorem extends_perform_succ (depth : Nat) (call : Call Key) :
    (perform routines depth call).Extends (perform routines (depth + 1) call) := by
  induction depth generalizing call with
  | zero =>
      cases call with
      | load source => exact fun host hended => absurd rfl hended
      | announce path? => exact fun host hended => absurd rfl hended
      | runPending => exact fun host hended => absurd rfl hended
      | compile engine path? => exact fun host hended => absurd rfl hended
      | _ => exact Act.extends_refl _
  | succ depth ih =>
      cases call with
      | load source =>
          exact fun host => extends_announce routines ih (some source) _
      | announce path? => exact extends_announce routines ih path?
      | runPending => exact fun host => extends_runRequests routines ih host.queue.length host
      | compile engine path? => exact Engine.extends_compile routines ih engine path?
      | _ => exact Act.extends_refl _

theorem extends_perform {depth depth' : Nat} (h : depth ≤ depth') (call : Call Key) :
    (perform routines depth call).Extends (perform routines depth' call) := by
  induction h with
  | refl => exact Act.extends_refl _
  | step _ ih => exact ih.trans (extends_perform_succ routines _ call)

end Host
end CompileOnLoad
