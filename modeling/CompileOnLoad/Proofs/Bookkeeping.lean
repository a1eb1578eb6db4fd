import CompileOnLoad.Proofs.CompilerCalls
import CompileOnLoad.Proofs.Displacement
import CompileOnLoad.Proofs.Recording

/-!
# The books of an engine

What is done with a host can be entered in books: what became of the files that an engine
was given, the visits to its hook, the requests, the messages of the engine, and the loads.
With quiet routines the books of an engine balance after every call and every switching,
whatever was done before.
-/

namespace CompileOnLoad

variable {Key Memory α β : Type}

namespace Outcome

def isTried : Outcome -> Bool
  | skipped => false
  | _ => true

def isFailed : Outcome -> Bool
  | failed _ => true
  | _ => false

end Outcome

namespace Engine

def isProgress (message : String) : Bool :=
  "Compiling ".toList.isPrefixOf message.toList

def isFailure (message : String) : Bool :=
  "Failed to compile ".toList.isPrefixOf message.toList

theorem isProgress_append (rest : String) : isProgress ("Compiling " ++ rest) = true := by
  simp [isProgress, List.isPrefixOf]

theorem isFailure_of_progress (rest : String) : isFailure ("Compiling " ++ rest) = false := by
  simp [isFailure, List.isPrefixOf]

end Engine

namespace Change

def outcome? (engine : Nat) : Change Key Memory -> Option Outcome
  | count index outcome => if index = engine then some outcome else none
  | _ => none

def isHookVisit : Change Key Memory -> Bool
  | visit observer _ => observer.isHook
  | _ => false

def notice? : Change Key Memory -> Option (Nat × String)
  | log logger _ target message =>
      if target = Engine.target then some (logger, message) else none
  | _ => none

def hook? : Change Key Memory -> Option Nat
  | register _ (.hook index) => some index
  | _ => none

def loaded? : Change Key Memory -> Option LoadedFile
  | remember file => some file
  | _ => none

def IsSilent : Change Key Memory -> Prop
  | log _ _ target _ => target ≠ Engine.target
  | count _ _ => False
  | visit (.hook _) _ => False
  | enqueue _ => False
  | register _ (.hook _) => False
  | remember _ => False
  | _ => True

def KeepsMemory : Change Key Memory -> Prop
  | store _ => False
  | _ => True

end Change

structure Books where
  outcomes : List Outcome := []
  visits : Nat := 0
  requests : List Request := []
  notices : List (Nat × String) := []
  hooks : List Nat := []
  loads : List LoadedFile := []

def Books.append (books more : Books) : Books where
  outcomes := books.outcomes ++ more.outcomes
  visits := books.visits + more.visits
  requests := books.requests ++ more.requests
  notices := books.notices ++ more.notices
  hooks := books.hooks ++ more.hooks
  loads := books.loads ++ more.loads

def books (engine : Nat) (entries : List (Entry Key Memory)) : Books where
  outcomes := entries.filterMap (·.change.outcome? engine)
  visits := entries.countP (·.change.isHookVisit)
  requests := addedIn entries
  notices := entries.filterMap (·.change.notice?)
  hooks := entries.filterMap (·.change.hook?)
  loads := entries.filterMap (·.change.loaded?)

theorem books_append (engine : Nat) (entries more : List (Entry Key Memory)) :
    books engine (entries ++ more) = (books engine entries).append (books engine more) := by
  simp [books, Books.append, addedIn_append]

theorem books_cons (engine : Nat) (entry : Entry Key Memory)
    (entries : List (Entry Key Memory)) :
    books engine (entry :: entries) = (books engine [entry]).append (books engine entries) :=
  books_append engine [entry] entries

theorem books_log (engine : Nat) (scope : Scope) (logger : Nat) (level : Log.Level)
    (target message : String) :
    books engine [(⟨scope, .log logger level target message⟩ : Entry Key Memory)] =
      { notices := if target = Engine.target then [(logger, message)] else [] } := by
  unfold books
  split
  · next htarget => simp [Change.outcome?, Change.notice?, Change.isHookVisit, Change.hook?,
      Change.loaded?, addedIn, htarget]
  · next htarget => simp [Change.outcome?, Change.notice?, Change.isHookVisit, Change.hook?,
      Change.loaded?, addedIn, htarget]

theorem books_count (engine : Nat) (scope : Scope) (outcome : Outcome) :
    books engine [(⟨scope, .count engine outcome⟩ : Entry Key Memory)] =
      { outcomes := [outcome] } := by
  unfold books
  rw [show [(⟨scope, .count engine outcome⟩ : Entry Key Memory)].filterMap
    (·.change.outcome? engine) = [outcome] by simp [Change.outcome?]]
  rfl

theorem books_silent (engine : Nat) {entries : List (Entry Key Memory)}
    (h : forall entry, entry ∈ entries -> entry.change.IsSilent) :
    books engine entries = {} := by
  induction entries with
  | nil => rfl
  | cons entry rest ih =>
      rw [books_cons, ih fun later hmem => h later (List.mem_cons_of_mem _ hmem)]
      have hfirst := h entry List.mem_cons_self
      rcases entry with ⟨scope, change⟩
      cases change with
      | log logger level target message =>
          rw [books_log, if_neg hfirst]
          rfl
      | register priority observer =>
          cases observer with
          | hook index => cases hfirst
          | action name key => rfl
      | visit observer path? =>
          cases observer with
          | hook index => cases hfirst
          | action name key => rfl
      | count index outcome => cases hfirst
      | enqueue request => cases hfirst
      | remember file => cases hfirst
      | _ => rfl

/-- The books tell the same: each file that the engine was given, by a hook or as one of
those `given` otherwise, has one outcome, and the requests and the messages are those of
the outcomes. -/
structure Books.Balance (given : Nat) (books : Books) : Prop where
  calls : books.outcomes.length = books.visits + given
  requests : books.requests = books.outcomes.flatMap Outcome.requests
  progress : books.notices.countP (Engine.isProgress ·.2) =
    books.outcomes.countP Outcome.isTried
  failures : books.notices.countP (Engine.isFailure ·.2) =
    books.outcomes.countP Outcome.isFailed

namespace Books

theorem balance_empty : Balance 0 {} where
  calls := rfl
  requests := rfl
  progress := rfl
  failures := rfl

theorem empty_append (books : Books) : ({} : Books).append books = books := by
  simp [append]

theorem Balance.append {given given' : Nat} {books more : Books} (h : books.Balance given)
    (hmore : more.Balance given') : (books.append more).Balance (given + given') where
  calls := by
    simp only [Books.append, List.length_append, h.calls, hmore.calls]
    exact Nat.add_add_add_comm ..
  requests := by
    simp only [Books.append, List.flatMap_append, h.requests, hmore.requests]
  progress := by
    simp only [Books.append, List.countP_append, h.progress, hmore.progress]
  failures := by
    simp only [Books.append, List.countP_append, h.failures, hmore.failures]

end Books

/-!
# What the books say of the host
-/

namespace Host

theorem length_engines_apply (change : Change Key Memory) (host : Host Key Memory) :
    (change.apply host).engines.length = host.engines.length := by
  cases change with
  | count engine outcome => exact List.length_modify ..
  | _ => rfl

theorem length_engines_replay (entries : List (Entry Key Memory)) (host : Host Key Memory) :
    (host.replay entries).engines.length = host.engines.length := by
  induction entries generalizing host with
  | nil => rfl
  | cons entry rest ih => exact (ih _).trans (length_engines_apply entry.change host)

theorem tally_engine_apply {engine : Nat} {host : Host Key Memory}
    (hengine : engine < host.engines.length) (change : Change Key Memory) :
    ((change.apply host).engine engine).tally =
      (change.outcome? engine).toList.foldl Tally.count (host.engine engine).tally := by
  cases change with
  | count index outcome =>
      by_cases hindex : index = engine
      · simp [Change.apply, Change.outcome?, Host.count, Host.engine, hindex,
          List.getD_eq_getElem?_getD, hengine]
      · simp [Change.apply, Change.outcome?, Host.count, Host.engine, hindex,
          List.getD_eq_getElem?_getD]
  | _ => rfl

theorem tally_engine_replay {engine : Nat} {host : Host Key Memory}
    (hengine : engine < host.engines.length) (entries : List (Entry Key Memory)) :
    ((host.replay entries).engine engine).tally =
      (books engine entries).outcomes.foldl Tally.count (host.engine engine).tally := by
  induction entries generalizing host with
  | nil => rfl
  | cons entry rest ih =>
      have hlength : engine < (entry.change.apply host).engines.length := by
        rw [length_engines_apply]
        exact hengine
      have hsplit : (books engine (entry :: rest)).outcomes =
          (entry.change.outcome? engine).toList ++ (books engine rest).outcomes := by
        rw [books_cons]
        unfold books Books.append
        cases hfound : entry.change.outcome? engine with
        | none => simp [hfound]
        | some outcome => simp [hfound]
      rw [hsplit, List.foldl_append, ← tally_engine_apply hengine]
      exact ih hlength

theorem history_replay (engine : Nat) (host : Host Key Memory)
    (entries : List (Entry Key Memory)) :
    (host.replay entries).history = host.history ++ (books engine entries).loads := by
  induction entries generalizing host with
  | nil => exact (List.append_nil _).symm
  | cons entry rest ih =>
      rcases entry with ⟨scope, change⟩
      cases change with
      | remember file => exact (ih _).trans (List.append_assoc ..)
      | _ => exact ih _

theorem memory_replay {entries : List (Entry Key Memory)}
    (h : forall entry, entry ∈ entries -> entry.change.KeepsMemory) (host : Host Key Memory) :
    (host.replay entries).memory = host.memory := by
  induction entries generalizing host with
  | nil => rfl
  | cons entry rest ih =>
      have hfirst := h entry List.mem_cons_self
      refine (ih (fun later hmem => h later (List.mem_cons_of_mem _ hmem)) _).trans ?_
      rcases entry with ⟨scope, change⟩
      cases change with
      | store memory => cases hfirst
      | _ => rfl

structure Serves (engine : Nat) (host : Host Key Memory) : Prop where
  present : engine < host.engines.length
  hooks : forall index, .hook index ∈ host.pipeline.observers -> index = engine

theorem Serves.apply {engine : Nat} {host : Host Key Memory} (h : host.Serves engine)
    {change : Change Key Memory}
    (hhook : forall index, change.hook? = some index -> index = engine) :
    (change.apply host).Serves engine where
  present := by
    rw [length_engines_apply]
    exact h.present
  hooks := by
    cases change with
    | register priority observer =>
        intro index hmem
        rcases List.mem_map.mp hmem with ⟨registration, hregistration, hobserver⟩
        rcases Pipeline.mem_insert.mp hregistration with hnew | hold
        · rw [hnew] at hobserver
          cases hobserver
          exact hhook index rfl
        · exact h.hooks index (List.mem_map.mpr ⟨registration, hold, hobserver⟩)
    | unregister id =>
        intro index hmem
        rcases List.mem_map.mp hmem with ⟨registration, hregistration, hobserver⟩
        have hold := (List.mem_filter.mp hregistration).1
        exact h.hooks index (List.mem_map.mpr ⟨registration, hold, hobserver⟩)
    | _ => exact h.hooks

theorem Serves.replay {engine : Nat} {host : Host Key Memory} (h : host.Serves engine)
    {entries : List (Entry Key Memory)}
    (hhooks : forall index, index ∈ (books engine entries).hooks -> index = engine) :
    (host.replay entries).Serves engine := by
  induction entries generalizing host with
  | nil => exact h
  | cons entry rest ih =>
      have hmem (index : Nat) : index ∈ (books engine (entry :: rest)).hooks <->
          entry.change.hook? = some index ∨ index ∈ (books engine rest).hooks := by
        unfold books
        simp
      apply ih (h.apply fun index hfirst => hhooks index ((hmem index).mpr (.inl hfirst)))
      exact fun index hlater => hhooks index ((hmem index).mpr (.inr hlater))

end Host

/-!
# Balanced accounts
-/

/-- The books on the entries balance and show the loads, and the watcher has seen the
compiler at work once for each outcome that has to do with it. -/
structure IsBooked (engine given : Nat) (loads : List LoadedFile)
    (host : Host Key (Watched Key Memory)) (entries : List (Entry Key (Watched Key Memory))) :
    Prop where
  balance : (books engine entries).Balance given
  loads : (books engine entries).loads = loads
  seen : exists sightings,
    (host.replay entries).memory.seen = host.memory.seen ++ sightings ∧
    (compiledIn sightings).length = (books engine entries).outcomes.countP Outcome.isTried
  hooks : forall index, index ∈ (books engine entries).hooks -> index = engine
  notices : forall notice, notice ∈ (books engine entries).notices ->
    notice.1 = (host.engine engine).logger

section

variable {engine given given' : Nat} {loads loads' : List LoadedFile}
variable {host : Host Key (Watched Key Memory)}
variable {entries more : List (Entry Key (Watched Key Memory))}

namespace IsBooked

theorem append (h : IsBooked engine given loads host entries)
    (hmore : IsBooked engine given' loads' (host.replay entries) more) :
    IsBooked engine (given + given') (loads ++ loads') host (entries ++ more) where
  balance := by
    rw [books_append]
    exact h.balance.append hmore.balance
  loads := by
    rw [books_append, ← h.loads, ← hmore.loads]
    rfl
  seen := by
    rcases h.seen with ⟨sightings, hseen, hcount⟩
    rcases hmore.seen with ⟨later, hlater, hmorecount⟩
    refine ⟨sightings ++ later, ?_, ?_⟩
    · rw [Host.replay_append, hlater, hseen, List.append_assoc]
    · rw [compiledIn_append, List.length_append, hcount, hmorecount, books_append]
      exact List.countP_append.symm
  hooks index hmem := by
    rw [books_append] at hmem
    rcases List.mem_append.mp hmem with hfirst | hlater
    · exact h.hooks index hfirst
    · exact hmore.hooks index hlater
  notices notice hmem := by
    rw [books_append] at hmem
    rcases List.mem_append.mp hmem with hfirst | hlater
    · exact h.notices notice hfirst
    · exact (hmore.notices notice hlater).trans
        (Host.logger_engine_replay entries host engine)

theorem serves (h : IsBooked engine given loads host entries) (hserves : host.Serves engine) :
    (host.replay entries).Serves engine :=
  hserves.replay h.hooks

end IsBooked

theorem isBooked_of_silent (hsilent : forall entry, entry ∈ entries -> entry.change.IsSilent)
    {sightings : List (Sighting Key)}
    (hseen : (host.replay entries).memory.seen = host.memory.seen ++ sightings)
    (hnone : compiledIn sightings = []) : IsBooked engine 0 [] host entries := by
  have hbooks := books_silent engine hsilent
  refine
    { balance := ?_
      loads := ?_
      seen := ⟨sightings, hseen, ?_⟩
      hooks := ?_
      notices := ?_ }
  · rw [hbooks]
    exact Books.balance_empty
  · rw [hbooks]
  · rw [hbooks, hnone]
    rfl
  · rw [hbooks]
    nofun
  · rw [hbooks]
    nofun

/-- The change shows in none of the books, and is not one of a routine. -/
def Change.IsAside : Change Key Memory -> Prop
  | store _ => False
  | change => change.IsSilent

namespace Change

variable {change : Change Key Memory}

theorem IsAside.isSilent (h : change.IsAside) : change.IsSilent := by
  cases change with
  | store memory => cases h
  | _ => exact h

theorem IsAside.keepsMemory (h : change.IsAside) : change.KeepsMemory := by
  cases change with
  | store memory => cases h
  | _ => trivial

end Change

theorem isBooked_aside (scope : Scope) {changes : List (Change Key (Watched Key Memory))}
    (h : forall change, change ∈ changes -> change.IsAside) :
    IsBooked engine 0 [] host (changes.map (⟨scope, ·⟩)) := by
  have hall : forall entry,
      entry ∈ changes.map (⟨scope, ·⟩ : _ -> Entry Key (Watched Key Memory)) ->
        entry.change.IsAside := by
    intro entry hmem
    rcases List.mem_map.mp hmem with ⟨change, hchange, rfl⟩
    exact h change hchange
  have hmemory := Host.memory_replay (fun entry hmem => (hall entry hmem).keepsMemory) host
  have hseen : (host.replay (changes.map (⟨scope, ·⟩))).memory.seen =
      host.memory.seen ++ [] := by
    rw [hmemory, List.append_nil]
  exact isBooked_of_silent (fun entry hmem => (hall entry hmem).isSilent) hseen rfl

theorem isBooked_remember (scope : Scope) (file : LoadedFile) :
    IsBooked engine 0 [file] host [⟨scope, .remember file⟩] where
  balance := ⟨rfl, rfl, rfl, rfl⟩
  loads := rfl
  seen := ⟨[], (List.append_nil _).symm, rfl⟩
  hooks := nofun
  notices := nofun

theorem isBooked_hook (scope : Scope) (priority : Priority) :
    IsBooked engine 0 [] host [⟨scope, .register priority (.hook engine)⟩] where
  balance := ⟨rfl, rfl, rfl, rfl⟩
  loads := rfl
  seen := ⟨[], (List.append_nil _).symm, rfl⟩
  hooks _ hmem := List.mem_singleton.mp hmem
  notices := nofun

theorem books_visit (engine : Nat) (scope : Scope) (observer : Observer Key)
    (path? : Option Path) :
    books engine [(⟨scope, .visit observer path?⟩ : Entry Key Memory)] =
      { visits := observer.isHook.toNat } := by
  cases observer with
  | hook index => rfl
  | action name key => rfl

theorem IsBooked.visited {observer : Observer Key} {path? : Option Path} {scope : Scope}
    (h : IsBooked engine (given + observer.isHook.toNat) loads host entries) :
    IsBooked engine given loads host (⟨scope, .visit observer path?⟩ :: entries) := by
  have hbooks : books engine (⟨scope, .visit observer path?⟩ :: entries) =
      { books engine entries with
        visits := (books engine entries).visits + observer.isHook.toNat } := by
    rw [books_cons, books_visit, Nat.add_comm]
    rfl
  have hcalls : (books engine entries).outcomes.length =
      (books engine entries).visits + observer.isHook.toNat + given := by
    rw [h.balance.calls, Nat.add_right_comm, Nat.add_assoc]
  refine
    { balance := ⟨?_, ?_, ?_, ?_⟩
      loads := ?_
      seen := ?_
      hooks := ?_
      notices := ?_ }
  · rw [hbooks]
    exact hcalls
  · rw [hbooks]
    exact h.balance.requests
  · rw [hbooks]
    exact h.balance.progress
  · rw [hbooks]
    exact h.balance.failures
  · rw [hbooks]
    exact h.loads
  · rw [hbooks]
    exact h.seen
  · rw [hbooks]
    exact h.hooks
  · rw [hbooks]
    exact h.notices

end

end CompileOnLoad
