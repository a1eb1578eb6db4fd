import CompileOnLoad.Proofs.Bookkeeping

/-!
# Accounts and books

With quiet routines, whatever a host does for an operation leaves the books of its engine
balanced.  Files that are given to the engine directly, and loads, are entered as such.
-/

namespace CompileOnLoad

variable {Key Memory α β : Type}

/-!
# Putting accounts together
-/

/-- The account leaves the books of an engine balanced in a host that serves it. -/
def Account.KeepsBooks (engine given : Nat) (loads : List LoadedFile)
    (account : Account Key (Watched Key Memory) α) : Prop :=
  forall scope (host : Host Key (Watched Key Memory)), host.Serves engine ->
    IsBooked engine given loads host (account scope host).2

namespace Account

section

variable {engine given given' : Nat} {loads loads' : List LoadedFile}

theorem isBooked_andThen {account : Account Key (Watched Key Memory) α}
    {next : α -> Account Key (Watched Key Memory) β} {scope : Scope}
    {host : Host Key (Watched Key Memory)}
    (haccount : IsBooked engine given loads host (account scope host).2)
    (hnext : forall a, IsBooked engine 0 [] (host.replay (account scope host).2)
      (next a scope (host.replay (account scope host).2)).2) :
    IsBooked engine given loads host ((account.andThen next) scope host).2 := by
  rcases hrun : account scope host with ⟨ending, entries⟩
  rw [hrun] at haccount hnext
  cases ending with
  | returned a =>
      have hboth := haccount.append (hnext a)
      rw [List.append_nil] at hboth
      rw [andThen_of_returned hrun]
      exact hboth
  | panicked panic =>
      rw [andThen_of_panicked hrun]
      exact haccount
  | exhausted =>
      rw [andThen_of_exhausted hrun]
      exact haccount

theorem keepsBooks_ended (ending : Ending α) :
    (ended ending : Account Key (Watched Key Memory) α).KeepsBooks engine 0 [] := by
  intro scope host _
  exact isBooked_aside scope (List.forall_mem_nil _)

theorem keepsBooks_tell {changes : List (Change Key (Watched Key Memory))}
    (h : forall change, change ∈ changes -> change.IsAside) :
    (tell changes).KeepsBooks engine 0 [] := by
  intro scope host _
  exact isBooked_aside scope h

theorem keepsBooks_look {next : Host Key (Watched Key Memory) ->
      Account Key (Watched Key Memory) α}
    (h : forall host : Host Key (Watched Key Memory), host.Serves engine ->
      (next host).KeepsBooks engine given loads) :
    (look next).KeepsBooks engine given loads := by
  intro scope host hserves
  exact h host hserves scope host hserves

theorem KeepsBooks.andThen {account : Account Key (Watched Key Memory) α}
    {next : α -> Account Key (Watched Key Memory) β}
    (haccount : account.KeepsBooks engine given loads)
    (hnext : forall a, (next a).KeepsBooks engine 0 []) :
    (account.andThen next).KeepsBooks engine given loads := by
  intro scope host hserves
  have hfirst := haccount scope host hserves
  exact isBooked_andThen hfirst fun a => hnext a scope _ (hfirst.serves hserves)

theorem KeepsBooks.after {account : Account Key (Watched Key Memory) α}
    (h : account.KeepsBooks engine given loads)
    {changes : List (Change Key (Watched Key Memory))}
    (hchanges : forall change, change ∈ changes -> change.IsAside) :
    ((tell changes).andThen fun _ => account).KeepsBooks engine given loads := by
  intro scope host hserves
  have hfirst : IsBooked engine 0 [] host (changes.map (⟨scope, ·⟩)) :=
    isBooked_aside scope hchanges
  have hboth := hfirst.append (h scope _ (hfirst.serves hserves))
  rw [Nat.zero_add] at hboth
  exact hboth

end

/-!
# Quiet scripts
-/

section

variable {accounts : (call : Call Key) -> Account Key Memory call.Answer}
variable {acts : Performer Key Memory}

theorem silent_script {s : Script Key Memory α} (hquiet : s.IsQuiet) (scope : Scope)
    (host : Host Key Memory) {entry : Entry Key Memory}
    (hmem : entry ∈ (script accounts s scope host).2) : entry.change.IsSilent := by
  induction s generalizing host with
  | done a => cases hmem
  | panic p => cases hmem
  | consult next ih => exact ih host.memory (hquiet host.memory) host hmem
  | store memory next ih =>
      rcases List.mem_cons.mp hmem with hfirst | hlater
      · rw [hfirst]
        trivial
      · exact ih hquiet _ hlater
  | call c next ih => exact hquiet.elim

/-- Who plays the part of the host has no influence on what a quiet script comes to. -/
theorem script_eq_eval (hcalls : forall call, (accounts call).Tells (acts call))
    {s : Script Key Memory α} (hquiet : s.IsQuiet) (scope : Scope) (host : Host Key Memory) :
    (script accounts s scope host).1 = (s.eval host.memory).1 ∧
      (host.replay (script accounts s scope host).2).memory = (s.eval host.memory).2 := by
  have hrun := tells_script hcalls s scope host
  rw [Script.run_eq_eval acts hquiet] at hrun
  rcases Prod.mk.inj hrun with ⟨hending, hafter⟩
  exact ⟨hending.symm, (congrArg Host.memory hafter).symm⟩

end

/-!
# Compiles
-/

section

theorem books_tell_andThen (engine : Nat) (changes : List (Change Key Memory))
    (next : Unit -> Account Key Memory α) (scope : Scope) (host : Host Key Memory) :
    books engine (((tell changes).andThen next) scope host).2 =
      (books engine (changes.map (⟨scope, ·⟩))).append
        (books engine (next () scope (host.replay (changes.map (⟨scope, ·⟩)))).2) :=
  books_append engine _ _

variable {routines : Routines Key Memory}
variable {accounts : (call : Call Key) -> Account Key Memory call.Answer}
variable {acts : Performer Key Memory}

/-- The engine ends with the message when a file that its compiler was given has the
outcome. -/
structure Closes (outcome : Outcome) (message : String) : Prop where
  tried : outcome.isTried = true
  progress : Engine.isProgress message = false
  failure : Engine.isFailure message = outcome.isFailed

theorem books_succeed (engine : Nat) (source artifact : Path) (scope : Scope)
    (host : Host Key Memory) :
    exists outcome message, Closes outcome message ∧
      books engine (succeed engine source artifact scope host).2 =
        { outcomes := [outcome], requests := outcome.requests,
          notices := [((host.engine engine).logger, message)] } := by
  refine ⟨.compiled artifact,
    "Scheduled deferred load of " ++ artifact.text ++ " for " ++ source.text,
    ⟨rfl, ?_, ?_⟩, ?_⟩
  · simp [Engine.isProgress, List.isPrefixOf]
  · simp [Engine.isFailure, List.isPrefixOf, Outcome.isFailed]
  · show books engine [⟨scope, .enqueue ⟨artifact, .deferred⟩⟩, ⟨scope, .log _ _ _ _⟩,
      ⟨scope, .count engine (.compiled artifact)⟩] = _
    rw [books_cons engine _ [_, _], books_cons engine _ [_], books_log, books_count,
      if_pos rfl]
    rfl

theorem books_fail (engine : Nat) (source : Path) (failure : CompileFailure) (scope : Scope)
    (host : Host Key Memory) :
    exists outcome message, Closes outcome message ∧
      books engine (fail engine source failure scope host).2 =
        { outcomes := [outcome], requests := outcome.requests,
          notices := [((host.engine engine).logger, message)] } := by
  refine ⟨.failed failure, "Failed to compile " ++ source.text ++ ": " ++ failure.message,
    ⟨rfl, ?_, ?_⟩, ?_⟩
  · simp [Engine.isProgress, List.isPrefixOf]
  · simp [Engine.isFailure, List.isPrefixOf, Outcome.isFailed]
  · show books engine [⟨scope, .log _ _ _ _⟩, ⟨scope, .count engine (.failed failure)⟩] = _
    rw [books_cons engine _ [_], books_log, books_count, if_pos rfl]
    rfl

theorem books_settle (engine : Nat) (source : Path)
    {ending : Ending (Except CompileFailure Path)} (hended : ending ≠ .exhausted)
    (scope : Scope) (host : Host Key Memory) :
    exists outcome message, Closes outcome message ∧
      books engine (settle engine source ending scope host).2 =
        { outcomes := [outcome], requests := outcome.requests,
          notices := [((host.engine engine).logger, message)] } := by
  cases ending with
  | returned result =>
      cases result with
      | ok artifact => exact books_succeed engine source artifact scope host
      | error failure => exact books_fail engine source failure scope host
  | panicked panic => exact books_fail engine source _ scope host
  | exhausted => exact absurd rfl hended

theorem silent_inSpan {s : Script Key Memory α} (hquiet : s.IsQuiet) (work : Work)
    (logger : Nat) (scope : Scope) (host : Host Key Memory) {entry : Entry Key Memory}
    (hmem : entry ∈ ((script accounts s).byRoutine.inSpan work logger scope host).2) :
    entry.change.IsSilent := by
  rcases List.mem_append.mp hmem with hstart | hlast
  · rcases List.mem_cons.mp hstart with henter | hinner
    · rw [henter]
      trivial
    · exact silent_script hquiet _ _ hinner
  · rw [List.mem_singleton.mp hlast]
    trivial

theorem books_compileEligible (hcalls : forall call, (accounts call).Tells (acts call))
    {engine : Nat} {source : Path} (hquiet : (routines.compile engine source).IsQuiet)
    (scope : Scope) (host : Host Key Memory) :
    exists outcome message, Closes outcome message ∧
      books engine (compileEligible routines accounts engine source scope host).2 =
        { outcomes := [outcome], requests := outcome.requests,
          notices := [((host.engine engine).logger, message)] } := by
  have hended := Script.eval_ne_exhausted hquiet
    (host.enterSpan (host.engine engine).logger).memory
  have hsilent : forall entry, entry ∈ (inSpan (.compiling engine source)
      (host.engine engine).logger (script accounts (routines.compile engine source)).byRoutine
      scope host).2 -> entry.change.IsSilent :=
    fun entry hmem => silent_inSpan hquiet _ _ scope host hmem
  simp only [compileEligible, look]
  rcases hrun : inSpan (.compiling engine source) (host.engine engine).logger
    (script accounts (routines.compile engine source)).byRoutine scope host
    with ⟨ending, entries⟩
  rw [hrun] at hsilent
  have hreturned : ending = .returned _ :=
    (congrArg Prod.fst hrun).symm.trans
      (congrArg Ending.returned (script_eq_eval hcalls hquiet _ _).1)
  subst hreturned
  rcases books_settle engine source hended scope (host.replay entries)
    with ⟨outcome, message, hcloses, hbooks⟩
  rw [Host.logger_engine_replay] at hbooks
  refine ⟨outcome, message, hcloses, ?_⟩
  rw [andThen_of_returned hrun, books_append, books_silent engine hsilent, Books.empty_append,
    hbooks]

/-- The notices are of the logger, and tell of no progress and of no failure. -/
def AreAside (logger : Nat) (notices : List (Nat × String)) : Prop :=
  forall notice, notice ∈ notices -> notice.1 = logger ∧
    Engine.isProgress notice.2 = false ∧ Engine.isFailure notice.2 = false

theorem AreAside.countP {logger : Nat} {notices : List (Nat × String)}
    (h : AreAside logger notices) :
    notices.countP (Engine.isProgress ·.2) = 0 ∧
    notices.countP (Engine.isFailure ·.2) = 0 := by
  constructor
  · apply List.countP_eq_zero.mpr
    intro notice hmem
    rw [(h notice hmem).2.1]
    exact Bool.false_ne_true
  · apply List.countP_eq_zero.mpr
    intro notice hmem
    rw [(h notice hmem).2.2]
    exact Bool.false_ne_true

theorem books_reports (engine : Nat) (scope : Scope) (logger : Nat)
    (errors : List (Nat × PatternError)) :
    exists notices, AreAside logger notices ∧
      books engine ((reports logger errors).map
        (⟨scope, ·⟩ : Change Key Memory -> Entry Key Memory)) = { notices } := by
  induction errors with
  | nil => exact ⟨[], nofun, rfl⟩
  | cons error rest ih =>
      rcases ih with ⟨notices, haside, hbooks⟩
      refine ⟨(logger, "ignoring exclusion pattern #" ++ toString error.1 ++ ": " ++
        error.2.message) :: notices, ?_, ?_⟩
      · intro notice hmem
        rcases List.mem_cons.mp hmem with hfirst | hlater
        · rw [hfirst]
          simp [Engine.isProgress, Engine.isFailure, List.isPrefixOf]
        · exact haside notice hlater
      · unfold reports at hbooks
        unfold reports
        rw [List.map_cons, List.map_cons, books_cons, hbooks, books_log, if_pos rfl]
        rfl

theorem books_skip (engine : Nat) (path? : Option Path) (verdict : Verdict) (scope : Scope)
    (host : Host Key Memory) :
    exists notices, AreAside (host.engine engine).logger notices ∧
      books engine (skip engine path? verdict scope host).2 =
        { outcomes := [.skipped], notices } := by
  cases path? with
  | none =>
      refine ⟨[], nofun, ?_⟩
      show books engine [⟨scope, .count engine .skipped⟩] = _
      rw [books_count]
  | some path =>
      refine ⟨[((host.engine engine).logger, "Skipping " ++ path.text ++ ": " ++
        verdict.display)], ?_, ?_⟩
      · intro notice hmem
        rw [List.mem_singleton.mp hmem]
        simp [Engine.isProgress, Engine.isFailure, List.isPrefixOf]
      · show books engine [⟨scope, .log _ _ _ _⟩, ⟨scope, .count engine .skipped⟩] = _
        rw [books_cons engine _ [_], books_log, books_count, if_pos rfl]
        rfl

theorem AreAside.append {logger : Nat} {notices more : List (Nat × String)}
    (h : AreAside logger notices) (hmore : AreAside logger more) :
    AreAside logger (notices ++ more) := by
  intro notice hmem
  rcases List.mem_append.mp hmem with hfirst | hlater
  · exact h notice hfirst
  · exact hmore notice hlater

theorem books_compile_of_ineligible {engine : Nat} {path? : Option Path}
    {host : Host Key Memory} (h : host.isEligible engine path? = false) (scope : Scope) :
    exists notices, AreAside (host.engine engine).logger notices ∧
      books engine (compile routines accounts engine path? scope host).2 =
        { outcomes := [.skipped], notices } := by
  have hverdict : (judge path? (host.policy (host.engine engine).policy)
      host.suffixes).verdict ≠ .eligible := of_decide_eq_false h
  unfold compile look
  simp only
  revert hverdict
  generalize judge path? _ host.suffixes = judgement
  intro hverdict
  rcases books_reports engine scope (host.engine engine).logger judgement.errors
    with ⟨warnings, hwarnings, hreports⟩
  rcases books_skip engine path? judgement.verdict scope
    (host.replay ((reports (host.engine engine).logger judgement.errors).map (⟨scope, ·⟩)))
    with ⟨notices, hnotices, hskip⟩
  rw [Host.logger_engine_replay] at hnotices
  refine ⟨warnings ++ notices, hwarnings.append hnotices, ?_⟩
  show books engine (_ ++ _) = _
  rw [books_append, hreports]
  split
  · next hjudged => exact absurd hjudged hverdict
  · rw [hskip]
    rfl

/-- An eligible file leaves its outcome, and messages of which one tells of the progress. -/
theorem books_compile_of_eligible (hcalls : forall call, (accounts call).Tells (acts call))
    {engine : Nat} {source : Path} (hquiet : (routines.compile engine source).IsQuiet)
    {host : Host Key Memory} (h : host.isEligible engine (some source) = true)
    (scope : Scope) : exists outcome message warnings, Closes outcome message ∧
      AreAside (host.engine engine).logger warnings ∧
      books engine (compile routines accounts engine (some source) scope host).2 =
        { outcomes := [outcome], requests := outcome.requests,
          notices := warnings ++ [((host.engine engine).logger, "Compiling " ++ source.text),
            ((host.engine engine).logger, message)] } := by
  have hverdict : (judge (some source) (host.policy (host.engine engine).policy)
      host.suffixes).verdict = .eligible := of_decide_eq_true h
  unfold compile look
  simp only
  revert hverdict
  generalize judge (some source) _ host.suffixes = judgement
  intro hverdict
  rcases books_reports engine scope (host.engine engine).logger judgement.errors
    with ⟨warnings, hwarnings, hreports⟩
  simp only [hverdict, books_tell_andThen, List.map_cons, List.map_nil, books_log, if_true]
  generalize hstart : (host.replay _).replay _ = start
  rcases books_compileEligible hcalls hquiet scope start with
    ⟨outcome, message, hcloses, hbooks⟩
  rw [← hstart, Host.logger_engine_replay, Host.logger_engine_replay, hstart] at hbooks
  refine ⟨outcome, message, warnings, hcloses, hwarnings, ?_⟩
  rw [hreports, hbooks]
  rfl

end

/-!
# Everything that a host does
-/

section

variable {routines : Routines Key Memory}
variable {accounts : (call : Call Key) -> Account Key (Watched Key Memory) call.Answer}
variable {acts : Performer Key (Watched Key Memory)}
variable {engine : Nat}

theorem seen_compile (hquiet : routines.Quiet)
    (hcalls : forall call, (accounts call).Tells (acts call)) (engine : Nat)
    (path? : Option Path) (scope : Scope) (host : Host Key (Watched Key Memory)) :
    (host.replay (compile routines.watched accounts engine path? scope host).2).memory.seen =
      host.memory.seen ++ compilings host.isEligible engine path? := by
  have htold := tells_compile routines.watched hcalls engine path? scope host
  rcases Engine.compile_moves hquiet acts engine path? host with ⟨outcome, -, hmoves⟩
  rw [htold] at hmoves
  exact hmoves.seen

theorem keepsBooks_compile (hquiet : routines.Quiet)
    (hcalls : forall call, (accounts call).Tells (acts call)) (path? : Option Path) :
    (compile routines.watched accounts engine path?).KeepsBooks engine 1 [] := by
  intro scope host _
  have hseen := seen_compile hquiet hcalls engine path? scope host
  cases heligible : host.isEligible engine path? with
  | false =>
      rcases books_compile_of_ineligible heligible scope with ⟨notices, haside, hbooks⟩
      rw [compilings_of_ineligible heligible] at hseen
      refine
        { balance := ?_
          loads := ?_
          seen := ⟨[], hseen, ?_⟩
          hooks := ?_
          notices := ?_ }
      · rw [hbooks]
        exact ⟨rfl, rfl, haside.countP.1, haside.countP.2⟩
      · rw [hbooks]
      · rw [hbooks]
        rfl
      · rw [hbooks]
        nofun
      · rw [hbooks]
        exact fun notice hmem => (haside notice hmem).1
  | true =>
      cases path? with
      | none => cases heligible
      | some source =>
          rcases books_compile_of_eligible hcalls (hquiet.watched.compile engine source)
            heligible scope with ⟨outcome, message, warnings, hcloses, haside, hbooks⟩
          rw [compilings_of_eligible heligible] at hseen
          refine
            { balance := ⟨?_, ?_, ?_, ?_⟩
              loads := ?_
              seen := ⟨[.compiling engine source], hseen, ?_⟩
              hooks := ?_
              notices := ?_ }
          · rw [hbooks]
            rfl
          · rw [hbooks]
            exact (List.flatMap_singleton ..).symm
          · rw [hbooks]
            simp [haside.countP.1, hcloses.progress, hcloses.tried, Engine.isProgress_append]
          · rw [hbooks]
            simp [haside.countP.2, hcloses.failure, Engine.isFailure_of_progress]
          · rw [hbooks]
          · rw [hbooks]
            simp [hcloses.tried, compiledIn, Sighting.compiled?]
          · rw [hbooks]
            nofun
          · rw [hbooks]
            intro notice hmem
            rcases List.mem_append.mp hmem with hwarning | hlast
            · exact (haside notice hwarning).1
            · simp only [List.mem_cons, List.not_mem_nil, or_false] at hlast
              rcases hlast with hfirst | hsecond
              · rw [hfirst]
              · rw [hsecond]

theorem target_pipeline_ne_engine : Host.pipelineTarget ≠ Engine.target := by decide

theorem target_queue_ne_engine : Host.queueTarget ≠ Engine.target := by decide

theorem keepsBooks_byRoutine {s : Script Key (Watched Key Memory) α} (hquiet : s.IsQuiet)
    (hcalls : forall call, (accounts call).Tells (acts call))
    (hseen : forall watched, exists sightings,
      (s.eval watched).2.seen = watched.seen ++ sightings ∧ compiledIn sightings = []) :
    (script accounts s).byRoutine.KeepsBooks engine 0 [] := by
  intro scope host _
  rcases hseen host.memory with ⟨sightings, hsightings, hnone⟩
  rw [← (script_eq_eval hcalls hquiet scope.deeper host).2] at hsightings
  exact isBooked_of_silent (fun entry hmem => silent_script hquiet _ _ hmem) hsightings hnone

theorem keepsBooks_observe (hquiet : routines.Quiet)
    (hcalls : forall call, (accounts call).Tells (acts call)) (key : Key)
    (path? : Option Path) :
    (script accounts
      (routines.watched.observe key path?)).byRoutine.KeepsBooks engine 0 [] := by
  apply keepsBooks_byRoutine (hquiet.watched.observe key path?) hcalls
  intro watched
  rw [Routines.eval_watched_observe hquiet]
  exact ⟨_, rfl, rfl⟩

theorem keepsBooks_link (hquiet : routines.Quiet)
    (hcalls : forall call, (accounts call).Tells (acts call)) (artifact : Path) :
    (script accounts (routines.watched.link artifact)).byRoutine.KeepsBooks engine 0 [] := by
  apply keepsBooks_byRoutine (hquiet.watched.link artifact) hcalls
  intro watched
  rw [Routines.eval_watched_link hquiet]
  refine ⟨_, rfl, ?_⟩
  unfold Routines.linkSightings
  split
  · rfl
  · rfl

theorem isAside_visitReports (logger : Nat) (path? : Option Path) (name : String)
    (disposition : Disposition) :
    forall change : Change Key Memory,
      change ∈ visitReports logger path? name disposition -> change.IsAside := by
  cases disposition with
  | passThrough =>
      simp [visitReports, Change.IsAside, Change.IsSilent, target_pipeline_ne_engine]
  | handled => simp [visitReports, Change.IsAside, Change.IsSilent, target_pipeline_ne_engine]

/-- A visit to the hook of the engine gives it a file; other visits do not concern it. -/
theorem keepsBooks_visit (hquiet : routines.Quiet)
    (hcalls : forall call, (accounts call).Tells (acts call)) (path? : Option Path)
    {observer : Observer Key}
    (hhook : forall index, observer = .hook index -> index = engine) :
    (visit routines.watched accounts path? observer).KeepsBooks engine observer.isHook.toNat
      [] := by
  cases observer with
  | action name key => exact keepsBooks_observe hquiet hcalls key path?
  | hook index =>
      cases hhook index rfl
      exact (keepsBooks_compile hquiet hcalls path?).andThen fun outcome => keepsBooks_ended _

theorem keepsBooks_visitAll (hquiet : routines.Quiet)
    (hcalls : forall call, (accounts call).Tells (acts call)) (path? : Option Path)
    {observers : List (Observer Key)}
    (hhooks : forall index, .hook index ∈ observers -> index = engine) :
    (visitAll routines.watched accounts path? observers).KeepsBooks engine 0 [] := by
  induction observers with
  | nil => exact keepsBooks_ended _
  | cons observer rest ih =>
      have hrest := ih fun index hmem => hhooks index (List.mem_cons_of_mem _ hmem)
      have hhook (index : Nat) (hindex : observer = .hook index) : index = engine :=
        hhooks index (hindex ▸ List.mem_cons_self)
      intro scope host hserves
      -- The mark of a visit to the hook is what balances the outcome of its file.
      apply IsBooked.visited
      rw [Nat.zero_add]
      apply (keepsBooks_visit hquiet hcalls path? hhook).andThen _ scope host hserves
      intro disposition
      apply keepsBooks_look
      intro host _
      apply KeepsBooks.after _ (isAside_visitReports _ _ _ _)
      cases disposition with
      | handled => exact keepsBooks_ended _
      | passThrough => exact hrest.andThen fun report => keepsBooks_ended _

theorem keepsBooks_announce (hquiet : routines.Quiet)
    (hcalls : forall call, (accounts call).Tells (acts call)) (path? : Option Path) :
    (announce routines.watched accounts path?).KeepsBooks engine 0 [] := by
  apply keepsBooks_look
  intro host hserves
  exact (keepsBooks_visitAll hquiet hcalls path? hserves.hooks).after
    (by simp [Change.IsAside, Change.IsSilent])

theorem keepsBooks_load (hquiet : routines.Quiet)
    (hcalls : forall call, (accounts call).Tells (acts call)) (source : Path) :
    (load routines.watched accounts source).KeepsBooks engine 0 [⟨source, none⟩] := by
  intro scope host hserves
  have hnoted : IsBooked engine 0 [⟨source, none⟩] host [⟨scope, .remember ⟨source, none⟩⟩] :=
    isBooked_remember scope _
  exact hnoted.append
    (keepsBooks_announce hquiet hcalls (some source) scope _ (hnoted.serves hserves))

theorem keepsBooks_execute (hquiet : routines.Quiet)
    (hcalls : forall call, (accounts call).Tells (acts call)) (artifact : Path) :
    (execute routines.watched accounts artifact).KeepsBooks engine 0 [] := by
  apply (keepsBooks_link hquiet hcalls artifact).andThen
  intro linked
  apply KeepsBooks.after _ (by simp [Change.IsAside, Change.IsSilent])
  apply keepsBooks_look
  intro host _
  cases linked with
  | ok _ =>
      apply KeepsBooks.after _
        (by simp [Change.IsAside, Change.IsSilent, target_queue_ne_engine])
      exact (keepsBooks_announce hquiet hcalls (some artifact)).andThen
        fun _ => keepsBooks_ended _
  | error failure =>
      apply KeepsBooks.after _
        (by simp [Change.IsAside, Change.IsSilent, target_queue_ne_engine])
      exact keepsBooks_ended _

theorem keepsBooks_runRequests (hquiet : routines.Quiet)
    (hcalls : forall call, (accounts call).Tells (acts call)) (n : Nat) :
    (runRequests routines.watched accounts n).KeepsBooks engine 0 [] := by
  induction n with
  | zero => exact keepsBooks_ended _
  | succ n ih =>
      apply keepsBooks_look
      intro host _
      split
      · exact keepsBooks_ended _
      · next request queue hqueue =>
          apply KeepsBooks.after _ (by simp [Change.IsAside, Change.IsSilent])
          apply (keepsBooks_execute hquiet hcalls request.artifact).andThen
          intro result
          exact ih.andThen fun report => keepsBooks_ended _

theorem keepsBooks_runPending (hquiet : routines.Quiet)
    (hcalls : forall call, (accounts call).Tells (acts call)) :
    (runPending routines.watched accounts).KeepsBooks engine 0 [] := by
  apply keepsBooks_look
  intro host _
  exact keepsBooks_runRequests hquiet hcalls _

/-- A sweep gives each of its files to the engine, since no compile fails to return. -/
theorem keepsBooks_sweepFiles (hquiet : routines.Quiet)
    (hcalls : forall call, (accounts call).Tells (acts call)) (files : List LoadedFile)
    (report : SweepReport) :
    (sweepFiles routines.watched accounts engine report files).KeepsBooks engine files.length
      [] := by
  induction files generalizing report with
  | nil => exact keepsBooks_ended _
  | cons file rest ih =>
      intro scope host hserves
      have hfirst := keepsBooks_compile hquiet hcalls (some file.source) scope host hserves
      have htold := tells_compile routines.watched hcalls engine (some file.source) scope host
      have hreturned := (Engine.compile_quiet acts (hquiet.watched.compile engine)
        (some file.source) host).1
      rw [htold] at hreturned
      unfold sweepFiles
      rw [andThen_of_returned (Prod.ext hreturned rfl)]
      generalize (Engine.result routines.watched engine (some file.source) host).1 = outcome
      have hboth := hfirst.append (ih (report.note outcome) scope _ (hfirst.serves hserves))
      rw [Nat.add_comm] at hboth
      exact hboth

theorem keepsBooks_sweepBody (hquiet : routines.Quiet)
    (hcalls : forall call, (accounts call).Tells (acts call)) (logger : Nat)
    (files : List LoadedFile) :
    (sweepBody routines.watched accounts logger engine files).KeepsBooks engine files.length
      [] := by
  apply KeepsBooks.after _ (by simp [Change.IsAside, Change.IsSilent, target_ne_target])
  apply (keepsBooks_sweepFiles hquiet hcalls files {}).andThen
  intro report
  exact (keepsBooks_ended _).after
    (by simp [Change.IsAside, Change.IsSilent, target_ne_target])

theorem keepsBooks_inSpan {account : Account Key (Watched Key Memory) α} {given : Nat}
    {loads : List LoadedFile} (h : account.KeepsBooks engine given loads) (work : Work)
    (logger : Nat) : (account.inSpan work logger).KeepsBooks engine given loads := by
  intro scope host hserves
  have haside (change : Change Key (Watched Key Memory)) (hchange : change.IsAside)
      (host : Host Key (Watched Key Memory)) : IsBooked engine 0 [] host [⟨scope, change⟩] :=
    isBooked_aside scope (List.forall_mem_singleton.mpr hchange)
  have hserved : (host.enterSpan logger).Serves engine := ⟨hserves.present, hserves.hooks⟩
  let span : OpenSpan := ⟨work, logger, (host.context.logging.logger logger).nextSpan⟩
  have hinner := (haside (.enter span) trivial host).append
    (h (scope.opened span) (host.enterSpan logger) hserved)
  have hleft := hinner.append (haside (.leave span) trivial _)
  rw [Nat.zero_add, List.nil_append, List.append_nil] at hleft
  exact hleft

theorem isBooked_sweep (hquiet : routines.Quiet)
    (hcalls : forall call, (accounts call).Tells (acts call)) {index : Nat} (scope : Scope)
    {host : Host Key (Watched Key Memory)} (hserves : host.Serves engine)
    (hindex : (host.interceptor index).engine = engine) :
    IsBooked engine host.history.length [] host
      (sweep routines.watched accounts index scope host).2 := by
  rw [entries_sweep, hindex]
  apply keepsBooks_inSpan _ _ _ scope host hserves
  exact keepsBooks_sweepBody hquiet hcalls _ host.history

/-- Switching on gives the engine the files loaded before, unless it was on already. -/
theorem isBooked_enable (hquiet : routines.Quiet)
    (hcalls : forall call, (accounts call).Tells (acts call)) {index : Nat} (scope : Scope)
    {host : Host Key (Watched Key Memory)} (hserves : host.Serves engine)
    (hindex : (host.interceptor index).engine = engine) :
    IsBooked engine
      (if (host.interceptor index).activation.isActive then 0 else host.history.length)
      [] host
      (enable routines.watched accounts index scope host).2 := by
  cases hactive : (host.interceptor index).activation.isActive with
  | true =>
      unfold enable look
      simp only [hactive, if_true]
      apply ((keepsBooks_ended (.returned none)).after _) scope host hserves
      simp [Change.IsAside, Change.IsSilent, target_ne_target]
  | false =>
      have hhook : IsBooked engine 0 [] host
          [⟨scope, .register Priority.reserved (.hook (host.interceptor index).engine)⟩] := by
        rw [hindex]
        exact isBooked_hook scope _
      have hinstalled : IsBooked engine 0 [] host
          ((installing index host).map (⟨scope, ·⟩)) := by
        apply hhook.append (isBooked_aside scope _)
        simp [Change.IsAside, Change.IsSilent, target_ne_target]
      have hswept := isBooked_sweep hquiet hcalls scope (hinstalled.serves hserves)
        ((Host.engine_interceptor_setActivation _ index index _).trans hindex)
      have hboth := hinstalled.append hswept
      rw [Nat.zero_add] at hboth
      rw [entries_enable_of_inactive routines.watched hactive]
      exact hboth

theorem keepsBooks_disable (index : Nat) :
    (disable index : Account Key (Watched Key Memory) Bool).KeepsBooks engine 0 [] := by
  apply keepsBooks_look
  intro host _
  simp only
  split
  · exact keepsBooks_ended _
  · apply (keepsBooks_ended _).after
    split
    · simp [Change.IsAside, Change.IsSilent, target_ne_target]
    · simp [Change.IsAside, Change.IsSilent, target_ne_target]

end

end Account

/-!
# Operations and runs
-/

namespace Operation

/-- The operation concerns only the engine, and puts nothing into the queue by itself. -/
def IsFor (engine : Nat) (host : Host Key Memory) : Operation Key -> Prop
  | call (.compile index _) => index = engine
  | call (.enqueue _) => False
  | enable index => (host.interceptor index).engine = engine
  | handle index _ => (host.interceptor index).engine = engine
  | _ => True

/-- How many files the operation gives to the engine, besides those that hooks give it. -/
def given (host : Host Key Memory) : Operation Key -> Nat
  | call (.compile _ _) => 1
  | handle _ _ => 1
  | enable index =>
      if (host.interceptor index).activation.isActive then 0 else host.history.length
  | _ => 0

def loads : Operation Key -> List LoadedFile
  | call (.load source) => [⟨source, none⟩]
  | _ => []

end Operation

def Host.given (routines : Routines Key Memory) (depth : Nat) :
    List (Operation Key) -> Host Key Memory -> Nat
  | [], _ => 0
  | operation :: rest, host =>
      operation.given host +
        given routines depth rest (host.replay (operation.account routines depth {} host).2)

section

variable {routines : Routines Key Memory} {engine : Nat}

theorem isBooked_operation (hquiet : routines.Quiet) (depth : Nat) {operation : Operation Key}
    {host : Host Key (Watched Key Memory)} (hserves : host.Serves engine)
    (hfor : operation.IsFor engine host) (scope : Scope) :
    IsBooked engine (operation.given host) operation.loads host
      (operation.account routines.watched depth scope host).2 := by
  have hcalls := Account.tells_perform routines.watched depth
  have haside (change : Change Key (Watched Key Memory)) (hchange : change.IsAside) :
      (Account.tell [change]).KeepsBooks engine 0 [] :=
    Account.keepsBooks_tell (List.forall_mem_singleton.mpr hchange)
  cases operation with
  | call c =>
      cases c with
      | register priority name key =>
          exact (haside (.register priority (.action name key)) trivial) scope host hserves
      | unregister id => exact (haside (.unregister id) trivial) scope host hserves
      | enqueue request => cases hfor
      | editPolicy handle edit =>
          exact (haside (.editPolicy handle edit) trivial) scope host hserves
      | load source => exact Account.keepsBooks_load hquiet hcalls source scope host hserves
      | announce path? =>
          exact Account.keepsBooks_announce hquiet hcalls path? scope host hserves
      | runPending => exact Account.keepsBooks_runPending hquiet hcalls scope host hserves
      | compile index path? =>
          cases hfor
          exact Account.keepsBooks_compile hquiet hcalls path? scope host hserves
  | enable index => exact Account.isBooked_enable hquiet hcalls scope hserves hfor
  | disable index => exact Account.keepsBooks_disable index scope host hserves
  | drop index =>
      exact (Account.keepsBooks_disable index).andThen (fun _ => Account.keepsBooks_ended _)
        scope host hserves
  | handle index path? =>
      cases hfor
      exact (Account.keepsBooks_compile hquiet hcalls path?).andThen
        (fun outcome => Account.keepsBooks_ended _) scope host hserves
  | editSuffixes edit => exact (haside (.editSuffixes edit) trivial) scope host hserves

theorem Host.engine_interceptor_replay (entries : List (Entry Key Memory))
    (host : Host Key Memory) (index : Nat) :
    ((host.replay entries).interceptor index).engine = (host.interceptor index).engine := by
  induction entries generalizing host with
  | nil => rfl
  | cons entry rest ih =>
      refine (ih _).trans ?_
      rcases entry with ⟨scope, change⟩
      cases change with
      | setActivation other activation =>
          exact engine_interceptor_setActivation host index other activation
      | _ => rfl

theorem Operation.IsFor.replay {operation : Operation Key} {host : Host Key Memory}
    (h : operation.IsFor engine host) (entries : List (Entry Key Memory)) :
    operation.IsFor engine (host.replay entries) := by
  cases operation with
  | call c =>
      cases c with
      | compile index path? => exact h
      | enqueue request => exact h
      | _ => trivial
  | enable index => exact (Host.engine_interceptor_replay entries host index).trans h
  | handle index path? => exact (Host.engine_interceptor_replay entries host index).trans h
  | _ => trivial

theorem isBooked_told (hquiet : routines.Quiet) (depth : Nat)
    {operations : List (Operation Key)} {host : Host Key (Watched Key Memory)}
    (hserves : host.Serves engine)
    (hfor : forall operation, operation ∈ operations -> operation.IsFor engine host) :
    IsBooked engine (host.given routines.watched depth operations)
      (operations.flatMap Operation.loads) host
      (host.told routines.watched depth operations) := by
  induction operations generalizing host with
  | nil => exact isBooked_aside {} (List.forall_mem_nil _)
  | cons operation rest ih =>
      have hfirst := isBooked_operation hquiet depth hserves
        (hfor operation List.mem_cons_self) {}
      apply hfirst.append
      apply ih (hfirst.serves hserves)
      intro later hmem
      exact (hfor later (List.mem_cons_of_mem _ hmem)).replay _

end
end CompileOnLoad
