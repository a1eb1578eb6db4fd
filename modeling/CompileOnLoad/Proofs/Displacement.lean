import CompileOnLoad.Proofs.Rounds

/-!
# Which requests a round executes

A round takes as many requests as were pending when it began, each from the front of the
queue as it is then.  What is added in the round behind the others waits for a later one.
What is added in front is taken next, and a pending request waits in its stead.
-/

namespace CompileOnLoad

variable {Key Memory α β : Type}

/-!
# Routines that run no rounds
-/

def Script.AvoidsRounds : Script Key Memory α -> Prop
  | done _ => True
  | panic _ => True
  | consult next => forall memory, (next memory).AvoidsRounds
  | store _ next => next.AvoidsRounds
  | call c next => c ≠ .runPending ∧ forall answer, (next answer).AvoidsRounds

structure Routines.AvoidRounds (routines : Routines Key Memory) : Prop where
  compile : forall engine source, (routines.compile engine source).AvoidsRounds
  link : forall artifact, (routines.link artifact).AvoidsRounds
  observe : forall key path?, (routines.observe key path?).AvoidsRounds

def Change.taken? : Change Key Memory -> Option Request
  | take request => some request
  | _ => none

theorem takenIn_eq_filterMap (entries : List (Entry Key Memory)) :
    takenIn entries = entries.filterMap (·.change.taken?) :=
  rfl

theorem takenIn_append (entries more : List (Entry Key Memory)) :
    takenIn (entries ++ more) = takenIn entries ++ takenIn more :=
  List.filterMap_append

theorem addedIn_append (entries more : List (Entry Key Memory)) :
    addedIn (entries ++ more) = addedIn entries ++ addedIn more :=
  List.filterMap_append

namespace Account

def TakesNone (account : Account Key Memory α) : Prop :=
  forall scope host, takenIn (account scope host).2 = []

theorem takesNone_ended (ending : Ending α) :
    (ended ending : Account Key Memory α).TakesNone := by
  intro scope host
  rfl

theorem takesNone_tell {changes : List (Change Key Memory)}
    (h : forall change, change ∈ changes -> change.taken? = none) :
    (tell changes).TakesNone := by
  intro scope host
  rw [takenIn_eq_filterMap]
  apply List.filterMap_eq_nil_iff.mpr
  intro entry hmem
  rcases List.mem_map.mp hmem with ⟨change, hchange, rfl⟩
  exact h change hchange

theorem takesNone_look {next : Host Key Memory -> Account Key Memory α}
    (h : forall host, (next host).TakesNone) : (look next).TakesNone := by
  intro scope host
  exact h host scope host

theorem takesNone_andThen {account : Account Key Memory α}
    {next : α -> Account Key Memory β} (haccount : account.TakesNone)
    (hnext : forall a, (next a).TakesNone) : (account.andThen next).TakesNone := by
  intro scope host
  have hfirst := haccount scope host
  rcases hrun : account scope host with ⟨ending, entries⟩
  rw [hrun] at hfirst
  cases ending with
  | returned a => rw [andThen_of_returned hrun, takenIn_append, hfirst, hnext a]; rfl
  | panicked panic => rw [andThen_of_panicked hrun, hfirst]
  | exhausted => rw [andThen_of_exhausted hrun, hfirst]

theorem TakesNone.after {account : Account Key Memory α} (h : account.TakesNone)
    {changes : List (Change Key Memory)}
    (hchanges : forall change, change ∈ changes -> change.taken? = none) :
    ((tell changes).andThen fun _ => account).TakesNone :=
  takesNone_andThen (takesNone_tell hchanges) fun _ => h

theorem takesNone_byRoutine {account : Account Key Memory α} (h : account.TakesNone) :
    account.byRoutine.TakesNone := by
  intro scope host
  exact h scope.deeper host

theorem takesNone_inSpan {account : Account Key Memory α} (h : account.TakesNone)
    (work : Work) (logger : Nat) : (account.inSpan work logger).TakesNone := by
  intro scope host
  simp only [inSpan]
  rw [takenIn_append, ← List.singleton_append, takenIn_append, h]
  rfl

section

variable {routines : Routines Key Memory}
variable {accounts : (call : Call Key) -> Account Key Memory call.Answer}

theorem takesNone_script
    (hcalls : forall call, call ≠ .runPending -> (accounts call).TakesNone)
    {s : Script Key Memory α} (havoids : s.AvoidsRounds) : (script accounts s).TakesNone := by
  induction s with
  | done a => exact takesNone_ended _
  | panic p => exact takesNone_ended _
  | consult next ih => exact takesNone_look fun host => ih host.memory (havoids host.memory)
  | store memory next ih =>
      apply (ih havoids).after
      simp [Change.taken?]
  | call c next ih =>
      exact takesNone_andThen (hcalls c havoids.1) fun answer => ih answer (havoids.2 answer)

theorem taken?_of_isOfVisit {change : Change Key Memory} (h : change.IsOfVisit) :
    change.taken? = none := by
  cases change with
  | take request => cases h
  | _ => rfl

theorem holdsOfParts_takesNone (havoid : routines.AvoidRounds)
    (hcalls : forall call, call ≠ .runPending -> (accounts call).TakesNone) :
    HoldsOfParts routines accounts TakesNone where
  ended := takesNone_ended
  tell h := takesNone_tell fun change hmem => taken?_of_isOfVisit (h change hmem)
  andThen := takesNone_andThen
  look := takesNone_look
  observing key path? :=
    takesNone_byRoutine (takesNone_script hcalls (havoid.observe key path?))
  compiling engine source :=
    takesNone_inSpan
      (takesNone_byRoutine (takesNone_script hcalls (havoid.compile engine source)))

theorem takesNone_announce (havoid : routines.AvoidRounds)
    (hcalls : forall call, call ≠ .runPending -> (accounts call).TakesNone)
    (path? : Option Path) : (announce routines accounts path?).TakesNone := by
  apply takesNone_look
  intro host
  apply TakesNone.after _ (by simp [Change.taken?])
  apply (holdsOfParts_takesNone havoid hcalls).visitAll path?
  intro observer
  exact takesNone_tell (by simp [Change.taken?])

theorem takesNone_execute (havoid : routines.AvoidRounds)
    (hcalls : forall call, call ≠ .runPending -> (accounts call).TakesNone)
    (artifact : Path) : (execute routines accounts artifact).TakesNone := by
  apply takesNone_andThen
  · exact takesNone_byRoutine (takesNone_script hcalls (havoid.link artifact))
  · intro linked
    apply TakesNone.after _ (by simp [Change.taken?])
    apply takesNone_look
    intro host
    cases linked with
    | ok _ =>
        apply TakesNone.after _ (by simp [Change.taken?])
        exact takesNone_andThen (takesNone_announce havoid hcalls _) fun _ =>
          takesNone_ended _
    | error failure => exact (takesNone_ended _).after (by simp [Change.taken?])

/-- Without rounds of their own, routines take no requests, at any depth. -/
theorem takesNone_perform (havoid : routines.AvoidRounds) (depth : Nat) (call : Call Key)
    (hcall : call ≠ .runPending) : (perform routines depth call).TakesNone := by
  induction depth generalizing call with
  | zero =>
      cases call with
      | register priority name key => intro scope host; rfl
      | unregister id => intro scope host; rfl
      | enqueue request => intro scope host; rfl
      | editPolicy handle edit => intro scope host; rfl
      | load source => exact takesNone_ended .exhausted
      | announce path? => exact takesNone_ended .exhausted
      | runPending => exact absurd rfl hcall
      | compile engine path? => exact takesNone_ended .exhausted
  | succ depth ih =>
      cases call with
      | register priority name key => intro scope host; rfl
      | unregister id => intro scope host; rfl
      | enqueue request => intro scope host; rfl
      | editPolicy handle edit => intro scope host; rfl
      | load source =>
          apply (takesNone_announce havoid ih (some source)).after
          simp [Change.taken?]
      | announce path? => exact takesNone_announce havoid ih path?
      | runPending => exact absurd rfl hcall
      | compile engine path? => exact (holdsOfParts_takesNone havoid ih).compile engine path?

end

end Account

/-!
# What becomes of pending requests
-/

namespace Queue

/-- What became of requests that were pending, when some were taken from the queue and
others added to it: some urgent ones overtook pending ones, which are left. -/
structure Displaced (pending taken added : List Request) (queue : Queue)
    (executed left overtaking waiting : List Request) : Prop where
  pending : pending = executed ++ left
  order : executed.Sublist taken
  taken : taken.Perm (executed ++ overtaking)
  urgent : (added.filter (·.urgency = .immediate)).Perm (overtaking ++ waiting)
  queue : queue = waiting ++ left ++ added.filter (·.urgency = .deferred)

def IsDisplaced (pending taken added : List Request) (queue : Queue) : Prop :=
  exists executed left overtaking waiting,
    Displaced pending taken added queue executed left overtaking waiting

variable {pending taken added : List Request} {queue : Queue}
variable {executed left overtaking waiting : List Request}

theorem isDisplaced_start (queue : Queue) : IsDisplaced queue [] [] queue :=
  ⟨[], queue, [], [], rfl, List.Sublist.refl _, List.Perm.refl _, List.Perm.refl _,
    (List.append_nil queue).symm⟩

theorem Displaced.add
    (h : Displaced pending taken added queue executed left overtaking waiting)
    (request : Request) :
    IsDisplaced pending taken (added ++ [request]) (queue.add request) := by
  cases hurgency : request.urgency with
  | immediate =>
      refine ⟨executed, left, overtaking, request :: waiting, h.pending, h.order,
        h.taken, ?_, ?_⟩
      · rw [List.filter_append, List.filter_cons_of_pos (by simp [hurgency])]
        exact (h.urgent.append_right _).trans
          ((List.perm_append_singleton _ _).trans List.perm_middle.symm)
      · unfold Queue.add
        simp [hurgency, h.queue]
  | deferred =>
      refine ⟨executed, left, overtaking, waiting, h.pending, h.order, h.taken, ?_, ?_⟩
      · rw [List.filter_append, List.filter_cons_of_neg (by simp [hurgency])]
        simpa using h.urgent
      · unfold Queue.add
        simp [hurgency, h.queue]

theorem Displaced.length_taken
    (h : Displaced pending taken added queue executed left overtaking waiting) :
    taken.length = executed.length + overtaking.length := by
  rw [h.taken.length_eq, List.length_append]

theorem Displaced.take
    (h : Displaced pending taken added queue executed left overtaking waiting)
    {request : Request} (hfirst : queue.head? = some request)
    (hwithin : taken.length < pending.length) :
    IsDisplaced pending (taken ++ [request]) added queue.tail := by
  have hqueue := h.queue
  cases waiting with
  | cons first rest =>
      rw [hqueue] at hfirst ⊢
      cases hfirst
      refine ⟨executed, left, overtaking ++ [request], rest, h.pending, ?_, ?_, ?_, rfl⟩
      · exact h.order.trans (List.sublist_append_left _ _)
      · rw [← List.append_assoc]
        exact h.taken.append_right _
      · rw [List.append_assoc]
        exact h.urgent
  | nil =>
      cases left with
      | nil =>
          rw [h.length_taken, h.pending, List.append_nil] at hwithin
          exact absurd hwithin (Nat.not_lt.mpr (Nat.le_add_right _ _))
      | cons first rest =>
          rw [hqueue] at hfirst ⊢
          cases hfirst
          refine ⟨executed ++ [request], rest, overtaking, [], ?_, ?_, ?_, h.urgent, rfl⟩
          · rw [h.pending, List.append_assoc]
            rfl
          · exact h.order.append_right _
          · refine (h.taken.append_right _).trans ?_
            rw [List.append_assoc, List.append_assoc]
            exact List.perm_append_comm.append_left _

end Queue

namespace Host

theorem isDisplaced_apply {host : Host Key Memory} {entry : Entry Key Memory}
    {pending taken added : List Request} (hfits : entry.Fits host)
    (hwithin : taken.length + (takenIn [entry]).length ≤ pending.length)
    (h : Queue.IsDisplaced pending taken added host.queue) :
    Queue.IsDisplaced pending (taken ++ takenIn [entry]) (added ++ addedIn [entry])
      (entry.change.apply host).queue := by
  rcases entry with ⟨scope, change⟩
  cases change with
  | enqueue request =>
      rcases h with ⟨executed, left, overtaking, waiting, hdisplaced⟩
      show Queue.IsDisplaced pending (taken ++ []) (added ++ [request]) _
      rw [List.append_nil]
      exact hdisplaced.add request
  | take request =>
      rcases h with ⟨executed, left, overtaking, waiting, hdisplaced⟩
      show Queue.IsDisplaced pending (taken ++ [request]) (added ++ []) _
      rw [List.append_nil]
      exact hdisplaced.take hfits hwithin
  | _ =>
      show Queue.IsDisplaced pending (taken ++ []) (added ++ []) host.queue
      rw [List.append_nil, List.append_nil]
      exact h

theorem isDisplaced_replay {host : Host Key Memory} {entries : List (Entry Key Memory)}
    {pending taken added : List Request} (hfits : host.Throughout Entry.Fits entries)
    (hwithin : taken.length + (takenIn entries).length ≤ pending.length)
    (h : Queue.IsDisplaced pending taken added host.queue) :
    Queue.IsDisplaced pending (taken ++ takenIn entries) (added ++ addedIn entries)
      (host.replay entries).queue := by
  induction entries generalizing host taken added with
  | nil =>
      show Queue.IsDisplaced pending (taken ++ []) (added ++ []) host.queue
      rw [List.append_nil, List.append_nil]
      exact h
  | cons entry rest ih =>
      have htaken := takenIn_append [entry] rest
      have hadded := addedIn_append [entry] rest
      rw [List.singleton_append] at htaken hadded
      rw [htaken, List.length_append, ← Nat.add_assoc] at hwithin
      have hfirst := isDisplaced_apply hfits.1 (Nat.le_of_add_right_le hwithin) h
      rw [← List.length_append] at hwithin
      have hlater := ih hfits.2 hwithin hfirst
      rw [htaken, hadded, ← List.append_assoc, ← List.append_assoc]
      exact hlater

end Host

/-!
# When nothing overtakes
-/

def Entry.overtakes (entry later : Entry Key Memory) : Bool :=
  match entry.change, later.change with
  | .enqueue request, .take _ => request.urgency = .immediate
  | _, _ => false

def NoneOvertakes (entries : List (Entry Key Memory)) : Prop :=
  entries.Pairwise fun entry later => entry.overtakes later = false

instance (entries : List (Entry Key Memory)) : Decidable (NoneOvertakes entries) :=
  inferInstanceAs (Decidable (entries.Pairwise _))

namespace Host

theorem queue_replay_of_takesNone {entries : List (Entry Key Memory)}
    (hnone : takenIn entries = []) (host : Host Key Memory) :
    (host.replay entries).queue = (addedIn entries).foldl Queue.add host.queue := by
  induction entries generalizing host with
  | nil => rfl
  | cons entry rest ih =>
      rcases entry with ⟨scope, change⟩
      cases change with
      | take request => cases hnone
      | _ => exact ih hnone _

theorem add_of_not_overtakes {scope : Scope} {request : Request}
    {rest : List (Entry Key Memory)}
    (hnone : forall later, later ∈ rest ->
      (⟨scope, .enqueue request⟩ : Entry Key Memory).overtakes later = false)
    (htakes : takenIn rest ≠ []) (queue : Queue) :
    queue.add request = queue ++ [request] := by
  rcases List.exists_mem_of_ne_nil _ htakes with ⟨taken, htaken⟩
  rcases List.mem_filterMap.mp htaken with ⟨⟨other, change⟩, hmem, hchange⟩
  have hnot := hnone _ hmem
  cases change with
  | take request' =>
      unfold Queue.add
      cases hurgency : request.urgency with
      | immediate => simp [Entry.overtakes, hurgency] at hnot
      | deferred => rfl
  | _ => cases hchange

theorem queue_replay_of_noneOvertakes {entries : List (Entry Key Memory)}
    {host : Host Key Memory} {left late : List Request}
    (hfits : host.Throughout Entry.Fits entries) (hnone : NoneOvertakes entries)
    (hqueue : host.queue = left ++ late) (hwithin : (takenIn entries).length ≤ left.length) :
    takenIn entries = left.take (takenIn entries).length ∧
      (host.replay entries).queue =
        (addedIn entries).foldl Queue.add (left.drop (takenIn entries).length ++ late) := by
  induction entries generalizing host left late with
  | nil => exact ⟨(List.take_zero ..).symm, hqueue⟩
  | cons entry rest ih =>
      rcases List.pairwise_cons.mp hnone with ⟨hfirst, hrest⟩
      rcases entry with ⟨scope, change⟩
      cases change with
      | take request =>
          cases left with
          | nil => exact absurd hwithin (Nat.not_succ_le_zero _)
          | cons first others =>
              have hhead : host.queue.head? = some request := hfits.1
              rw [hqueue] at hhead
              cases hhead
              have htail : host.queue.tail = others ++ late := by
                rw [hqueue]
                rfl
              rcases ih hfits.2 hrest htail (Nat.le_of_succ_le_succ hwithin) with
                ⟨htaken, hafter⟩
              exact ⟨congrArg (request :: ·) htaken, hafter⟩
      | enqueue request =>
          by_cases htakes : takenIn rest = []
          · have hnothing : takenIn (⟨scope, .enqueue request⟩ :: rest) = [] := htakes
            rw [hnothing]
            refine ⟨rfl, ?_⟩
            rw [List.length_nil, List.drop_zero, ← hqueue]
            exact queue_replay_of_takesNone htakes (host.enqueue request)
          · have hadd := add_of_not_overtakes hfirst htakes
            have hadded : (host.enqueue request).queue = left ++ (late ++ [request]) := by
              rw [← List.append_assoc, ← hqueue]
              exact hadd host.queue
            rcases ih hfits.2 hrest hadded hwithin with ⟨htaken, hafter⟩
            refine ⟨htaken, hafter.trans ?_⟩
            rw [← List.append_assoc, ← hadd]
            rfl
      | _ => exact ih hfits.2 hrest hqueue hwithin

end Host

/-!
# Rounds
-/

namespace Account

/-- Whatever request is taken is taken by the host itself, and not by a routine. -/
def TakesItself (account : Account Key Memory α) : Prop :=
  forall scope host, takenIn (account scope host).2 =
    (ownChanges Change.isQueueWork scope (account scope host).2).filterMap Change.taken?

theorem TakesNone.takesItself {account : Account Key Memory α} (h : account.TakesNone) :
    account.TakesItself := by
  intro scope host
  have hnone := h scope host
  rw [hnone]
  rw [takenIn_eq_filterMap] at hnone
  apply (List.filterMap_eq_nil_iff.mpr _).symm
  intro change hmem
  rcases List.mem_map.mp hmem with ⟨entry, hentry, rfl⟩
  exact List.filterMap_eq_nil_iff.mp hnone entry (List.mem_filter.mp hentry).1

theorem takesItself_andThen {account : Account Key Memory α}
    {next : α -> Account Key Memory β} (haccount : account.TakesItself)
    (hnext : forall a, (next a).TakesItself) : (account.andThen next).TakesItself := by
  intro scope host
  have hfirst := haccount scope host
  rcases hrun : account scope host with ⟨ending, entries⟩
  rw [hrun] at hfirst
  cases ending with
  | returned a =>
      rw [andThen_of_returned hrun, takenIn_append, ownChanges_append, List.filterMap_append,
        hfirst, hnext a]
  | panicked panic => rw [andThen_of_panicked hrun, hfirst]
  | exhausted => rw [andThen_of_exhausted hrun, hfirst]

theorem takesItself_take (request : Request) :
    (tell [.take request] : Account Key Memory Unit).TakesItself := by
  intro scope host
  unfold tell
  rw [ownChanges_map]
  rfl

variable {routines : Routines Key Memory}
variable {accounts : (call : Call Key) -> Account Key Memory call.Answer}

theorem takesItself_runRequests (havoid : routines.AvoidRounds)
    (hcalls : forall call, call ≠ .runPending -> (accounts call).TakesNone) (n : Nat) :
    (runRequests routines accounts n).TakesItself := by
  induction n with
  | zero => exact (takesNone_ended _).takesItself
  | succ n ih =>
      intro scope host
      simp only [runRequests, look]
      cases hqueue : host.queue with
      | nil => exact (takesNone_ended _).takesItself scope host
      | cons request queue =>
          apply takesItself_andThen (takesItself_take request)
          intro _
          apply takesItself_andThen
            (takesNone_execute havoid hcalls request.artifact).takesItself
          intro result
          exact takesItself_andThen ih fun report => (takesNone_ended _).takesItself

end Account

section

variable {execution : Path -> Act Key Memory (Except LoadFailure Unit)} {limit : Nat}
variable {ending : Ending RunReport} {work : List (Change Key Memory)} {left : Queue}

theorem taken_linkWork (artifact : Path) (result : Except LoadFailure Unit) :
    (linkWork artifact result : List (Change Key Memory)).filterMap Change.taken? = [] := by
  cases result with
  | ok _ => rfl
  | error failure => rfl

theorem taken_work (attempts : List Attempt) :
    (attempts.flatMap Attempt.work : List (Change Key Memory)).filterMap Change.taken? =
      attempts.map (·.request) := by
  induction attempts with
  | nil => rfl
  | cons attempt rest ih =>
      rw [List.flatMap_cons, List.filterMap_append, ih]
      unfold Attempt.work
      rw [List.filterMap_cons, taken_linkWork]
      rfl

theorem RoundTold.length_taken_le (h : RoundTold execution limit ending work left) :
    (work.filterMap Change.taken?).length ≤ limit := by
  cases h with
  | completed attempts within done =>
      rw [taken_work, List.length_map]
      exact within
  | brokenOff attempts request reached within cause linked =>
      have hreached : reached.filterMap Change.taken? = [] := by
        rcases linked with rfl | rfl
        · rfl
        · exact taken_linkWork _ _
      have hlast : (.take request :: reached).filterMap Change.taken? = [request] := by
        rw [List.filterMap_cons, hreached]
        rfl
      rw [List.filterMap_append, taken_work, hlast, List.length_append, List.length_map]
      exact within

theorem RoundTold.completed_of_returned {report : RunReport}
    (h : RoundTold execution limit (.returned report) work left) :
    exists attempts, report = reportOf attempts ∧ work = attempts.flatMap Attempt.work ∧
      (attempts.length = limit ∨ left = []) := by
  cases h with
  | completed attempts within done => exact ⟨attempts, rfl, rfl, done⟩
  | brokenOff attempts request reached within cause linked =>
      rcases cause with ⟨host, hcause⟩
      revert hcause
      cases (execution request.artifact host).1 with
      | returned result => exact False.elim
      | panicked panic => exact False.elim
      | exhausted => exact False.elim

theorem RoundTold.returns (h : RoundTold execution limit ending work left)
    (hexecution : forall artifact host, exists result,
      (execution artifact host).1 = .returned result) :
    exists report, ending = .returned report := by
  cases h with
  | completed attempts within done => exact ⟨_, rfl⟩
  | brokenOff attempts request reached within cause linked =>
      rcases cause with ⟨host, hcause⟩
      rcases hexecution request.artifact host with ⟨result, hresult⟩
      rw [hresult] at hcause
      cases ending with
      | returned report => exact ⟨report, rfl⟩
      | panicked panic => exact hcause.elim
      | exhausted => exact hcause.elim

end

theorem Queue.Displaced.length_left {pending taken added : List Request} {queue : Queue}
    {executed left overtaking waiting : List Request}
    (h : Displaced pending taken added queue executed left overtaking waiting)
    (htaken : taken.length = pending.length) : left.length = overtaking.length := by
  have hlength := h.length_taken
  rw [htaken, h.pending, List.length_append] at hlength
  exact Nat.add_left_cancel hlength

/-- If all that waits is gone, no fewer requests were taken than were pending. -/
theorem Queue.Displaced.length_le {pending taken added : List Request} {queue : Queue}
    {executed left overtaking waiting : List Request}
    (h : Displaced pending taken added queue executed left overtaking waiting)
    (hempty : queue = []) : pending.length ≤ taken.length := by
  have hqueue := h.queue
  rw [hempty] at hqueue
  rcases List.append_eq_nil_iff.mp hqueue.symm with ⟨hfront, -⟩
  rcases List.append_eq_nil_iff.mp hfront with ⟨-, hleft⟩
  rw [h.length_taken, h.pending, hleft, List.append_nil]
  exact Nat.le_add_right _ _

namespace Host

/-- A round whose routines run no rounds takes as many requests as were pending.  It takes
those and no others, and all that was added is queued after it, if no urgent request is
added before the last one is taken.  Otherwise a pending request is left for each urgent
one that was executed; requests that are not urgent wait in any case. -/
theorem round_executes_pending {routines : Routines Key Memory}
    (havoid : routines.AvoidRounds) (depth : Nat) (scope : Scope) (host : Host Key Memory) :
    let round := Account.perform routines (depth + 1) .runPending scope host
    let after := host.replay round.2
    perform routines (depth + 1) .runPending host = (round.1, after) ∧
    (exists executed left overtaking waiting,
      Queue.Displaced host.queue (takenIn round.2) (addedIn round.2) after.queue
        executed left overtaking waiting ∧
      forall report, round.1 = .returned report -> left.length = overtaking.length) ∧
    ((forall artifact state, exists result,
        (execute routines (perform routines depth) artifact state).1 = .returned result) ->
      exists report, round.1 = .returned report) ∧
    (forall report, round.1 = .returned report -> exists attempts,
      report = reportOf attempts ∧
      ownChanges Change.isQueueWork scope round.2 = attempts.flatMap Attempt.work ∧
      attempts.map (·.request) = takenIn round.2 ∧
      (takenIn round.2).length = host.queue.length ∧
      (NoneOvertakes round.2 ->
        attempts.map (·.request) = host.queue ∧
        after.queue = (addedIn round.2).foldl Queue.add [])) := by
  intro round after
  have htold : RoundTold _ host.queue.length round.1 _ after.queue :=
    Account.roundTold_runRequests routines (Account.isNested_perform routines depth)
      (Account.tells_perform routines depth) host.queue.length scope host
  have hown : takenIn round.2 = _ := Account.takesItself_runRequests havoid
    (Account.takesNone_perform havoid depth) host.queue.length scope host
  have hfits : host.Throughout Entry.Fits round.2 :=
    (Account.isNested_perform routines (depth + 1) .runPending scope host).fits
  have hwithin : (takenIn round.2).length ≤ host.queue.length := by
    rw [hown]
    exact htold.length_taken_le
  have hdisplaced : Queue.IsDisplaced host.queue (takenIn round.2) (addedIn round.2)
      after.queue :=
    isDisplaced_replay hfits ((Nat.zero_add _).symm ▸ hwithin)
      (Queue.isDisplaced_start host.queue)
  rcases hdisplaced with ⟨executed, left, overtaking, waiting, hdisplaced⟩
  have hreturned (report : RunReport) (hreport : round.1 = .returned report) :
      exists attempts, report = reportOf attempts ∧
        ownChanges Change.isQueueWork scope round.2 = attempts.flatMap Attempt.work ∧
        attempts.map (·.request) = takenIn round.2 ∧
        (takenIn round.2).length = host.queue.length := by
    rw [hreport] at htold
    rcases htold.completed_of_returned with ⟨attempts, hreport, hwork, hdone⟩
    have htaken : attempts.map (·.request) = takenIn round.2 := by
      rw [hown]
      exact (taken_work attempts).symm.trans (congrArg _ hwork.symm)
    refine ⟨attempts, hreport, hwork, htaken, ?_⟩
    rcases hdone with hdone | hempty
    · rw [← htaken, List.length_map, hdone]
    · exact Nat.le_antisymm hwithin (hdisplaced.length_le hempty)
  refine ⟨Account.tells_perform routines (depth + 1) .runPending scope host, ?_,
    htold.returns, ?_⟩
  · refine ⟨executed, left, overtaking, waiting, hdisplaced, ?_⟩
    intro report hreport
    rcases hreturned report hreport with ⟨attempts, -, -, -, hall⟩
    exact hdisplaced.length_left hall
  · intro report hreport
    rcases hreturned report hreport with ⟨attempts, hsame, hwork, htaken, hall⟩
    refine ⟨attempts, hsame, hwork, htaken, hall, ?_⟩
    intro hnone
    rcases queue_replay_of_noneOvertakes hfits hnone (List.append_nil _).symm hwithin
      with ⟨hexecuted, hafter⟩
    rw [hall, List.take_length] at hexecuted
    rw [hall, List.drop_length] at hafter
    exact ⟨htaken.trans hexecuted, hafter⟩

/-- When `a` is loaded, `x` is wanted at once and `y` when there is time. -/
def requesting : Routines Nat Unit where
  compile _ source := .done (.ok source)
  link _ := .done (.ok ())
  observe _ path? :=
    if path? = some (Path.ofString "a") then
      .call (.enqueue ⟨Path.ofString "x", .immediate⟩) fun _ =>
        .call (.enqueue ⟨Path.ofString "y", .deferred⟩) fun _ => .done .passThrough
    else .done .passThrough

theorem avoidRounds_requesting : requesting.AvoidRounds where
  compile _ _ := trivial
  link _ := trivial
  observe key path? := by
    unfold requesting
    simp only
    split
    · exact ⟨nofun, fun _ => ⟨nofun, fun _ => trivial⟩⟩
    · trivial

def queued (artifacts : List String) : Host Nat Unit :=
  { (vacant.register (.ofValue 0) (.action "requesting" 0)).2 with
    queue := artifacts.map fun artifact => ⟨Path.ofString artifact, .deferred⟩ }

def requestingRound (host : Host Nat Unit) : Ending RunReport × List (Entry Nat Unit) :=
  Account.perform requesting 1 .runPending {} host

/-- The last of the pending requests is the one at which others are added. -/
theorem round_executes_pending_requesting :
    requesting.AvoidRounds ∧
    NoneOvertakes (requestingRound (queued ["b", "a"])).2 ∧
    (requestingRound (queued ["b", "a"])).1 =
      .returned ⟨[Path.ofString "b", Path.ofString "a"], []⟩ ∧
    (exists attempts,
      reportOf attempts = ⟨[Path.ofString "b", Path.ofString "a"], []⟩ ∧
      attempts.map (·.request) = (queued ["b", "a"]).queue) ∧
    ((queued ["b", "a"]).replay (requestingRound (queued ["b", "a"])).2).queue =
      (addedIn (requestingRound (queued ["b", "a"])).2).foldl Queue.add [] ∧
    (addedIn (requestingRound (queued ["b", "a"])).2).map (·.artifact.text) = ["x", "y"] := by
  have hnone : NoneOvertakes (requestingRound (queued ["b", "a"])).2 := by decide +kernel
  have hreturned : (requestingRound (queued ["b", "a"])).1 =
      .returned ⟨[Path.ofString "b", Path.ofString "a"], []⟩ := by decide +kernel
  rcases round_executes_pending avoidRounds_requesting 0 {} (queued ["b", "a"])
    with ⟨-, -, -, hround⟩
  rcases hround _ hreturned with ⟨attempts, hreport, -, -, -, hkept⟩
  rcases hkept hnone with ⟨hpending, hafter⟩
  refine ⟨avoidRounds_requesting, hnone, hreturned, ⟨attempts, hreport.symm, hpending⟩,
    hafter, ?_⟩
  decide +kernel

/-- Others are added at the first of the pending requests; the urgent one is executed, and
the second pending one is not. -/
theorem urgent_request_overtakes :
    requesting.AvoidRounds ∧
    (runPending requesting (perform requesting 0) (queued ["a", "b"])).1 =
      .returned ⟨[Path.ofString "a", Path.ofString "x"], []⟩ ∧
    (runPending requesting (perform requesting 0) (queued ["a", "b"])).2.queue.map
      (·.artifact.text) = ["b", "y"] := by
  refine ⟨avoidRounds_requesting, ?_, ?_⟩
  · decide +kernel
  · decide +kernel

end Host
end CompileOnLoad
