import CompileOnLoad.Proofs.Pipeline
import CompileOnLoad.Proofs.Watching
import Mathlib.Data.List.Forall2

/-!
# The calls of a host alone

A host and the interceptors in it edit one list of observers.  Taken alone, the
registrations and removals that the host asks for would give it other numbers, but
the same actions in the same order.
-/

namespace CompileOnLoad

variable {Key : Type}

/-!
# Honest hosts
-/

def issuedIn (sightings : List (Sighting Key)) : List Nat :=
  sightings.filterMap fun
    | .registered id _ _ _ => some id
    | _ => none

/-- A host registers with priorities that it can ask for, and takes out only what
it has registered before. -/
def Sighting.IsHonest (issued : List Nat) : Sighting Key -> Prop
  | registered _ priority _ _ => exists value, priority = Priority.ofValue value
  | unregistered id => id ∈ issued
  | _ => True

/-- The sightings are those of an honest host that has got some numbers before. -/
def HonestFrom (issued : List Nat) : List (Sighting Key) -> Prop
  | [] => True
  | sighting :: rest =>
      sighting.IsHonest issued ∧ HonestFrom (issued ++ issuedIn [sighting]) rest

theorem honestFrom_append (issued : List Nat) (first rest : List (Sighting Key)) :
    HonestFrom issued (first ++ rest) <->
      HonestFrom issued first ∧ HonestFrom (issued ++ issuedIn first) rest := by
  induction first generalizing issued with
  | nil => simp [HonestFrom, issuedIn]
  | cons sighting first ih =>
      have hissued : issuedIn (sighting :: first) =
          issuedIn [sighting] ++ issuedIn first :=
        List.filterMap_append (l := [sighting])
      simp only [List.cons_append, HonestFrom, ih, hissued, List.append_assoc, and_assoc]

def Honest (sightings : List (Sighting Key)) : Prop :=
  HonestFrom [] sightings

theorem Honest.of_append {first rest : List (Sighting Key)}
    (h : Honest (first ++ rest)) : Honest first :=
  ((honestFrom_append [] first rest).mp h).1

theorem Honest.of_prefix {first sightings : List (Sighting Key)}
    (h : Honest sightings) (hfirst : first <+: sightings) : Honest first := by
  rcases hfirst with ⟨rest, hrest⟩
  rw [← hrest] at h
  exact h.of_append

theorem Honest.last {sightings : List (Sighting Key)} {sighting : Sighting Key}
    (h : Honest (sightings ++ [sighting])) : sighting.IsHonest (issuedIn sightings) :=
  ((honestFrom_append [] sightings [sighting]).mp h).2.1

/-!
# The list without hooks
-/

/-- What the calls of a host make of a list of observers of its own, with the
numbers that they get there beside those that they have got. -/
structure Alone (Key : Type) where
  pipeline : Pipeline Key := {}
  numbers : List (Nat × Nat) := []

namespace Alone

def number? (alone : Alone Key) (id : Nat) : Option Nat :=
  (alone.numbers.find? (·.1 = id)).map (·.2)

def next (alone : Alone Key) : Sighting Key -> Alone Key
  | .registered id priority name key =>
      let (number, pipeline) := alone.pipeline.register priority (.action name key)
      ⟨pipeline, alone.numbers ++ [(id, number)]⟩
  | .unregistered id =>
      match alone.number? id with
      | some number => { alone with pipeline := (alone.pipeline.unregister number).2 }
      | none => alone
  | _ => alone

def replay (sightings : List (Sighting Key)) : Alone Key :=
  sightings.foldl next {}

theorem replay_snoc (sightings : List (Sighting Key)) (sighting : Sighting Key) :
    replay (sightings ++ [sighting]) = (replay sightings).next sighting :=
  List.foldl_concat ..

theorem numbers_next (alone : Alone Key) (sighting : Sighting Key) :
    (alone.next sighting).numbers.map (·.1) =
      alone.numbers.map (·.1) ++ issuedIn [sighting] := by
  cases sighting with
  | registered id priority name key => exact List.map_append
  | unregistered id =>
      cases hnumber : alone.number? id with
      | none =>
          simp only [next, hnumber]
          exact (List.append_nil _).symm
      | some number =>
          simp only [next, hnumber]
          exact (List.append_nil _).symm
  | compiling engine source => exact (List.append_nil _).symm
  | linked artifact => exact (List.append_nil _).symm
  | visited key path? => exact (List.append_nil _).symm

theorem numbers_foldl (alone : Alone Key) (sightings : List (Sighting Key)) :
    (sightings.foldl next alone).numbers.map (·.1) =
      alone.numbers.map (·.1) ++ issuedIn sightings := by
  induction sightings generalizing alone with
  | nil => exact (List.append_nil _).symm
  | cons sighting rest ih =>
      have hissued : issuedIn (sighting :: rest) = issuedIn [sighting] ++ issuedIn rest :=
        List.filterMap_append (l := [sighting])
      rw [List.foldl_cons, ih, numbers_next, hissued, List.append_assoc]

theorem exists_number {sightings : List (Sighting Key)} {id : Nat}
    (h : id ∈ issuedIn sightings) :
    exists number, (id, number) ∈ (replay sightings).numbers := by
  have hnumbers : (replay sightings).numbers.map (·.1) = issuedIn sightings :=
    numbers_foldl {} sightings
  rw [← hnumbers] at h
  rcases List.mem_map.mp h with ⟨⟨first, number⟩, hmem, hfirst⟩
  cases hfirst
  exact ⟨number, hmem⟩

def Increasing (numbers : List (Nat × Nat)) : Prop :=
  numbers.Pairwise fun p q => p.1 < q.1 ∧ p.2 < q.2

theorem Increasing.same_iff {numbers : List (Nat × Nat)} (h : Increasing numbers)
    {p q : Nat × Nat} (hp : p ∈ numbers) (hq : q ∈ numbers) : p.1 = q.1 <-> p.2 = q.2 := by
  have hsame : numbers.Pairwise fun p q => p.1 = q.1 <-> p.2 = q.2 := by
    apply h.imp
    intro p q hless
    omega
  have hflip : numbers.Pairwise (flip fun p q => p.1 = q.1 <-> p.2 = q.2) := by
    apply h.imp
    intro p q hless
    show q.1 = p.1 <-> q.2 = p.2
    omega
  exact List.Pairwise.forall_of_forall_of_flip (fun _ _ => ⟨fun _ => rfl, fun _ => rfl⟩)
    hsame hflip hp hq

theorem Increasing.find?_eq {numbers : List (Nat × Nat)} (h : Increasing numbers)
    {id number : Nat} (hmem : (id, number) ∈ numbers) :
    numbers.find? (·.1 = id) = some (id, number) := by
  induction numbers with
  | nil => cases hmem
  | cons first rest ih =>
      rcases List.pairwise_cons.mp h with ⟨hfirst, hrest⟩
      rcases List.mem_cons.mp hmem with hmem | hmem
      · rw [← hmem]
        exact List.find?_cons_of_pos (decide_eq_true rfl)
      · have hne : first.1 ≠ id := Nat.ne_of_lt (hfirst (id, number) hmem).1
        rw [List.find?_cons_of_neg (by simp [hne])]
        exact ih hrest hmem

/-- The registrations are of the same action, and have numbers that belong
together. -/
def SameAction (numbers : List (Nat × Nat)) (r s : Registration Key) : Prop :=
  r.priority = s.priority ∧ r.observer = s.observer ∧ (r.id, s.id) ∈ numbers

variable {numbers more : List (Nat × Nat)} {r s : Registration Key}
variable {registrations registrations' : List (Registration Key)}

theorem SameAction.append (h : SameAction numbers r s) :
    SameAction (numbers ++ more) r s :=
  ⟨h.1, h.2.1, List.mem_append_left more h.2.2⟩

theorem forall₂_insert (hnew : SameAction numbers r s)
    (h : List.Forall₂ (SameAction numbers) registrations registrations') :
    List.Forall₂ (SameAction numbers) (Pipeline.insert r registrations)
      (Pipeline.insert s registrations') := by
  induction h with
  | nil => exact List.Forall₂.cons hnew List.Forall₂.nil
  | cons hfirst hrest ih =>
      rename_i first first' rest rest'
      unfold Pipeline.insert
      rw [hnew.1, hfirst.1]
      split
      · exact List.Forall₂.cons hnew (List.Forall₂.cons hfirst hrest)
      · exact List.Forall₂.cons hfirst ih

theorem map_eq_of_forall₂
    (h : List.Forall₂ (SameAction numbers) registrations registrations') :
    registrations.map (fun r => (r.priority, r.observer)) =
      registrations'.map fun r => (r.priority, r.observer) := by
  induction h with
  | nil => rfl
  | cons hfirst hrest ih =>
      rw [List.map_cons, List.map_cons, ih, hfirst.1, hfirst.2.1]

/-- Without its hooks, a list of observers is the one of the host alone. -/
structure Matches (alone : Alone Key) (pipeline : Pipeline Key) : Prop where
  ordered : pipeline.IsOrdered
  actions : List.Forall₂ (SameAction alone.numbers) pipeline.actions
    alone.pipeline.registrations
  increasing : Increasing alone.numbers
  issued : forall p, p ∈ alone.numbers ->
    p.1 < pipeline.nextId ∧ p.2 < alone.pipeline.nextId
  apart : forall r, r ∈ pipeline.hooks -> forall p, p ∈ alone.numbers -> p.1 ≠ r.id

theorem matches_empty : (replay [] : Alone Key).Matches {} where
  ordered := Pipeline.isOrdered_empty
  actions := List.Forall₂.nil
  increasing := List.Pairwise.nil
  issued p hp := by cases hp
  apart r hr := by cases hr

namespace Matches

variable {alone : Alone Key} {pipeline : Pipeline Key}

theorem register (h : alone.Matches pipeline) (value : Int32) (name : String)
    (key : Key) :
    (alone.next (.registered pipeline.nextId (.ofValue value) name key)).Matches
      (pipeline.register (.ofValue value) (.action name key)).2 where
  ordered := h.ordered.register_action value name key
  actions := by
    rw [Pipeline.actions_register_action h.ordered.ascending]
    apply forall₂_insert
    · exact ⟨rfl, rfl, List.mem_append_right _ (List.mem_singleton.mpr rfl)⟩
    · exact h.actions.imp fun _ _ => SameAction.append
  increasing := by
    apply List.pairwise_append.mpr
    refine ⟨h.increasing, List.pairwise_singleton _ _, ?_⟩
    intro p hp q hq
    rw [List.mem_singleton.mp hq]
    exact h.issued p hp
  issued := by
    intro p hp
    rcases List.mem_append.mp hp with hp | hp
    · rcases h.issued p hp with ⟨hfirst, hsecond⟩
      exact ⟨Nat.lt_succ_of_lt hfirst, Nat.lt_succ_of_lt hsecond⟩
    · rw [List.mem_singleton.mp hp]
      exact ⟨Nat.lt_succ_self _, Nat.lt_succ_self _⟩
  apart := by
    intro r hr p hp
    rw [Pipeline.hooks_register_action] at hr
    rcases List.mem_append.mp hp with hp | hp
    · exact h.apart r hr p hp
    · rw [List.mem_singleton.mp hp]
      exact (Nat.ne_of_lt (h.ordered.issued r (List.mem_filter.mp hr).1)).symm

theorem hooks_unregister (h : alone.Matches pipeline) {id number : Nat}
    (hmem : (id, number) ∈ alone.numbers) :
    (pipeline.unregister id).2.hooks = pipeline.hooks := by
  rw [Pipeline.hooks_unregister, List.filter_eq_self]
  intro r hr
  exact decide_eq_true (h.apart r hr _ hmem).symm

theorem unregister (h : alone.Matches pipeline) {id number : Nat}
    (hmem : (id, number) ∈ alone.numbers) :
    (alone.next (.unregistered id)).Matches (pipeline.unregister id).2 := by
  have hnumber : alone.number? id = some number := by
    unfold number?
    rw [h.increasing.find?_eq hmem]
    rfl
  have hnext : alone.next (.unregistered id) =
      { alone with pipeline := (alone.pipeline.unregister number).2 } := by
    simp only [next, hnumber]
  rw [hnext]
  constructor
  · exact h.ordered.unregister id
  · rw [Pipeline.actions_unregister]
    refine List.rel_filter ?_ h.actions
    intro r s hsame
    have hiff := h.increasing.same_iff hsame.2.2 hmem
    simp only [ne_eq, decide_eq_true_eq, hiff]
  · exact h.increasing
  · exact h.issued
  · intro r hr
    rw [h.hooks_unregister hmem] at hr
    exact h.apart r hr

theorem register_hook (h : alone.Matches pipeline) (engine : Nat) :
    alone.Matches (pipeline.register Priority.reserved (.hook engine)).2 where
  ordered := h.ordered.register_hook engine
  actions := by
    rw [Pipeline.actions_register_hook]
    exact h.actions
  increasing := h.increasing
  issued := by
    intro p hp
    rcases h.issued p hp with ⟨hfirst, hsecond⟩
    exact ⟨Nat.lt_succ_of_lt hfirst, hsecond⟩
  apart := by
    intro r hr p hp
    rw [Pipeline.hooks_register_hook h.ordered] at hr
    rcases List.mem_append.mp hr with hr | hr
    · exact h.apart r hr p hp
    · rw [List.mem_singleton.mp hr]
      exact Nat.ne_of_lt (h.issued p hp).1

theorem unregister_hook (h : alone.Matches pipeline) {hook : Nat}
    (hhook : forall p, p ∈ alone.numbers -> p.1 ≠ hook) :
    alone.Matches (pipeline.unregister hook).2 where
  ordered := h.ordered.unregister hook
  actions := by
    rw [Pipeline.actions_unregister, ← List.filter_true alone.pipeline.registrations]
    refine List.rel_filter ?_ h.actions
    intro r s hsame
    exact ⟨fun _ => rfl, fun _ => decide_eq_true (hhook _ hsame.2.2)⟩
  increasing := h.increasing
  issued := h.issued
  apart := by
    intro r hr
    rw [Pipeline.hooks_unregister] at hr
    exact h.apart r (List.mem_filter.mp hr).1

end Matches
end Alone
end CompileOnLoad
