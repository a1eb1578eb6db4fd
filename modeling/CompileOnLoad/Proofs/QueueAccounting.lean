import CompileOnLoad.Proofs.Nesting

/-!
# What becomes of requests

Requests are numbered as they arrive.  In every state that a run passes through,
also in the midst of a round and after a routine has broken off, each request that
has arrived has either been taken from the queue once, or still waits in it; the
urgent ones wait in front, the last one first, and the ordinary ones behind them,
the first one first.
-/

namespace CompileOnLoad

variable {Key Memory : Type}

/-!
# Arrivals
-/

abbrev Arrival := Request × Nat

def Arrival.Precedes (a b : Arrival) : Prop :=
  match a.1.urgency, b.1.urgency with
  | .immediate, .immediate => b.2 < a.2
  | .immediate, .deferred => True
  | .deferred, .immediate => False
  | .deferred, .deferred => a.2 < b.2

/-- Of the requests that have arrived, some are gone and the others wait. -/
structure Queue.Ledger (arrived taken : List Request) (queue : Queue)
    (gone waiting : List Arrival) : Prop where
  taken : gone.map (·.1) = taken
  queued : waiting.map (·.1) = queue
  all : (gone ++ waiting).Perm arrived.zipIdx
  order : waiting.Pairwise Arrival.Precedes

/-- Each request that has arrived was taken once or waits once, and those that wait
are in order. -/
def Queue.IsAccounted (arrived taken : List Request) (queue : Queue) : Prop :=
  exists gone waiting, Ledger arrived taken queue gone waiting

namespace Queue

variable {arrived taken : List Request} {queue : Queue} {gone waiting : List Arrival}

theorem Ledger.number_lt (h : Ledger arrived taken queue gone waiting)
    {arrival : Arrival} (hmem : arrival ∈ waiting) : arrival.2 < arrived.length := by
  have harrived := h.all.mem_iff.mp (List.mem_append_right gone hmem)
  exact List.snd_lt_of_mem_zipIdx harrived

theorem zipIdx_snoc (arrived : List Request) (request : Request) :
    (arrived ++ [request]).zipIdx = arrived.zipIdx ++ [(request, arrived.length)] := by
  rw [List.zipIdx_append, Nat.zero_add]
  rfl

/-- An urgent request is put before all that wait, an ordinary one behind them. -/
theorem Ledger.add (h : Ledger arrived taken queue gone waiting) (request : Request) :
    IsAccounted (arrived ++ [request]) taken (queue.add request) := by
  cases hurgency : request.urgency with
  | immediate =>
      refine ⟨gone, (request, arrived.length) :: waiting, h.taken, ?_, ?_, ?_⟩
      · unfold Queue.add
        rw [hurgency, List.map_cons, h.queued]
      · rw [zipIdx_snoc]
        exact List.perm_middle.trans
          ((h.all.cons _).trans (List.perm_append_singleton _ _).symm)
      · apply List.pairwise_cons.mpr
        refine ⟨?_, h.order⟩
        intro arrival hmem
        have hnumber := h.number_lt hmem
        unfold Arrival.Precedes
        simp only [hurgency]
        cases arrival.1.urgency with
        | immediate => exact hnumber
        | deferred => trivial
  | deferred =>
      refine ⟨gone, waiting ++ [(request, arrived.length)], h.taken, ?_, ?_, ?_⟩
      · unfold Queue.add
        rw [hurgency, List.map_append, h.queued]
        rfl
      · rw [zipIdx_snoc, ← List.append_assoc]
        exact h.all.append_right _
      · apply List.pairwise_append.mpr
        refine ⟨h.order, List.pairwise_singleton _ _, ?_⟩
        intro arrival hmem last hlast
        have hnumber := h.number_lt hmem
        rw [List.mem_singleton.mp hlast]
        unfold Arrival.Precedes
        simp only [hurgency]
        cases arrival.1.urgency with
        | immediate => trivial
        | deferred => exact hnumber

theorem Ledger.take {request : Request}
    (h : Ledger arrived taken queue gone waiting) (hfirst : queue.head? = some request) :
    IsAccounted arrived (taken ++ [request]) queue.tail := by
  cases waiting with
  | nil =>
      rw [← h.queued] at hfirst
      cases hfirst
  | cons first rest =>
      have hqueue := h.queued
      rw [List.map_cons] at hqueue
      rw [← hqueue] at hfirst ⊢
      cases hfirst
      refine ⟨gone ++ [first], rest, ?_, rfl, ?_, ?_⟩
      · rw [List.map_append, h.taken]
        rfl
      · rw [List.append_assoc]
        exact h.all
      · exact (List.pairwise_cons.mp h.order).2

theorem IsAccounted.perm (h : IsAccounted arrived taken queue) :
    arrived.Perm (taken ++ queue) := by
  rcases h with ⟨gone, waiting, hledger⟩
  have hrequests := hledger.all.map (·.1)
  rw [List.map_append, hledger.taken, hledger.queued, List.zipIdx_map_fst] at hrequests
  exact hrequests.symm

theorem isAccounted_nil : IsAccounted [] [] [] :=
  ⟨[], [], rfl, rfl, List.Perm.refl _, List.Pairwise.nil⟩

end Queue

/-!
# The queue in every state
-/

def addedIn (entries : List (Entry Key Memory)) : List Request :=
  entries.filterMap fun entry =>
    match entry.change with
    | .enqueue request => some request
    | _ => none

def takenIn (entries : List (Entry Key Memory)) : List Request :=
  entries.filterMap fun entry =>
    match entry.change with
    | .take request => some request
    | _ => none

namespace Host

theorem isAccounted_apply {host : Host Key Memory} {entry : Entry Key Memory}
    {arrived taken : List Request} (hfits : entry.Fits host)
    (h : Queue.IsAccounted arrived taken host.queue) :
    Queue.IsAccounted (arrived ++ addedIn [entry]) (taken ++ takenIn [entry])
      (entry.change.apply host).queue := by
  rcases entry with ⟨scope, change⟩
  cases change with
  | enqueue request =>
      rcases h with ⟨gone, waiting, hledger⟩
      show Queue.IsAccounted (arrived ++ [request]) (taken ++ []) _
      rw [List.append_nil]
      exact hledger.add request
  | take request =>
      rcases h with ⟨gone, waiting, hledger⟩
      show Queue.IsAccounted (arrived ++ []) (taken ++ [request]) _
      rw [List.append_nil]
      exact hledger.take hfits
  | _ =>
      show Queue.IsAccounted (arrived ++ []) (taken ++ []) host.queue
      rw [List.append_nil, List.append_nil]
      exact h

theorem isAccounted_replay {host : Host Key Memory} {entries : List (Entry Key Memory)}
    {arrived taken : List Request} (hfits : host.Throughout Entry.Fits entries)
    (h : Queue.IsAccounted arrived taken host.queue) :
    Queue.IsAccounted (arrived ++ addedIn entries) (taken ++ takenIn entries)
      (host.replay entries).queue := by
  induction entries generalizing host arrived taken with
  | nil =>
      show Queue.IsAccounted (arrived ++ []) (taken ++ []) host.queue
      rw [List.append_nil, List.append_nil]
      exact h
  | cons entry rest ih =>
      have hlater := ih hfits.2 (isAccounted_apply hfits.1 h)
      rw [List.append_assoc, List.append_assoc] at hlater
      have hadded : addedIn (entry :: rest) = addedIn [entry] ++ addedIn rest :=
        List.filterMap_append (l := [entry])
      have htaken : takenIn (entry :: rest) = takenIn [entry] ++ takenIn rest :=
        List.filterMap_append (l := [entry])
      rw [hadded, htaken]
      exact hlater

end Host

end CompileOnLoad
