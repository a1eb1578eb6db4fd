import CompileOnLoad.Proofs.Attribution
import CompileOnLoad.Proofs.SinkPaths

/-!
# Guards of spans

A guard does not know the span that was opened with it: when it is dropped, the innermost
span of its logger closes.  So the stack of a logger is as high as the logger has guards,
and its spans are numbered in the order in which they are stacked, in whatever order the
guards are dropped.  Which span belongs to which guard is a matter of the order: a stack
consists of the spans of its guards if always the last of them is dropped first.
-/

namespace CompileOnLoad
namespace Log

/-!
# What is done with loggers and guards
-/

inductive SpanUse where
  | enter (logger : Nat)
  | drop (guard : Nat)
  | log (logger : Nat) (level : Level) (target message : String)
  deriving DecidableEq, Repr

def SpanUse.act : SpanUse -> Logging -> Logging
  | enter logger, logging => (logging.enter logger).2
  | drop guard, logging => logging.drop guard
  | log logger level target message, logging => logging.log logger level target message

/-- A guard that has not been dropped, and the span that was opened with it. -/
structure LiveGuard where
  number : Nat
  span : Nat
  deriving DecidableEq, Repr

/-- The loggers and guards, and what is known of the past of one logger: its guards that are
left, and all its spans, the last ones first. -/
structure Ledger where
  logging : Logging
  alive : List LiveGuard := []
  opened : List Nat := []

namespace Ledger

def stack (index : Nat) (ledger : Ledger) : List Nat :=
  (ledger.logging.logger index).spans

def nextSpan (index : Nat) (ledger : Ledger) : Nat :=
  (ledger.logging.logger index).nextSpan

def note (index : Nat) (ledger : Ledger) (use : SpanUse) : Ledger where
  logging := use.act ledger.logging
  alive :=
    match use with
    | .enter logger =>
        if logger = index then
          ⟨ledger.logging.guards.length, ledger.nextSpan index⟩ :: ledger.alive
        else ledger.alive
    | .drop guard => ledger.alive.filter (·.number ≠ guard)
    | .log _ _ _ _ => ledger.alive
  opened :=
    match use with
    | .enter logger =>
        if logger = index then ledger.nextSpan index :: ledger.opened else ledger.opened
    | _ => ledger.opened

def run (index : Nat) (ledger : Ledger) (uses : List SpanUse) : Ledger :=
  uses.foldl (note index) ledger

theorem run_append (index : Nat) (ledger : Ledger) (uses more : List SpanUse) :
    ledger.run index (uses ++ more) = (ledger.run index uses).run index more :=
  List.foldl_append

theorem logging_run (index : Nat) (ledger : Ledger) (uses : List SpanUse) :
    (ledger.run index uses).logging =
      uses.foldl (fun logging use => use.act logging) ledger.logging := by
  induction uses generalizing ledger with
  | nil => rfl
  | cons use rest ih => exact ih (ledger.note index use)

/-- If a guard of the logger is dropped, it is the one that was made last. -/
def DropsLast (ledger : Ledger) : SpanUse -> Prop
  | .drop guard =>
      guard ∈ ledger.alive.map (·.number) -> (ledger.alive.map (·.number)).head? = some guard
  | _ => True

instance (ledger : Ledger) : (use : SpanUse) -> Decidable (ledger.DropsLast use)
  | .drop guard =>
      inferInstanceAs (Decidable (guard ∈ ledger.alive.map (·.number) ->
        (ledger.alive.map (·.number)).head? = some guard))
  | .enter _ => isTrue trivial
  | .log _ _ _ _ => isTrue trivial

def IsOrderly (index : Nat) : Ledger -> List SpanUse -> Prop
  | _, [] => True
  | ledger, use :: rest => ledger.DropsLast use ∧ IsOrderly index (ledger.note index use) rest

instance decidableIsOrderly (index : Nat) :
    (ledger : Ledger) -> (uses : List SpanUse) -> Decidable (IsOrderly index ledger uses)
  | _, [] => isTrue trivial
  | ledger, use :: rest =>
      have := decidableIsOrderly index (ledger.note index use) rest
      inferInstanceAs (Decidable (_ ∧ _))

end Ledger

/-!
# Single steps
-/

theorem Logging.log_eq (logging : Logging) (logger : Nat) (level : Level)
    (target message : String) :
    exists outlets, logging.log logger level target message = { logging with outlets } :=
  ⟨_, logging.log_eq_foldl logger level target message⟩

theorem Logging.drop_cases (logging : Logging) (guard : Nat) :
    (forall owner : Nat, logging.guards[guard]? ≠ some (some owner)) ∧
      logging.drop guard = logging ∨
    exists owner, logging.guards[guard]? = some (some owner) ∧
      logging.drop guard =
        { logging.update owner Logger.leave with
          guards := logging.guards.set guard none } := by
  unfold drop
  rw [List.getD_eq_getElem?_getD]
  rcases hguard : logging.guards[guard]? with _ | _ | owner
  · exact .inl ⟨nofun, rfl⟩
  · exact .inl ⟨nofun, rfl⟩
  · exact .inr ⟨owner, rfl, rfl⟩

namespace Ledger

/-- What a step does to a logger: a span opens with a new guard, or a guard is dropped and the
innermost span closes, or nothing happens to the logger and to its guards. -/
inductive Noted (index : Nat) (ledger after : Ledger) : SpanUse -> Prop where
  | entered
      (stack : after.stack index = ledger.nextSpan index :: ledger.stack index)
      (nextSpan : after.nextSpan index = ledger.nextSpan index + 1)
      (guards : after.logging.guards = ledger.logging.guards ++ [some index])
      (alive : after.alive =
        ⟨ledger.logging.guards.length, ledger.nextSpan index⟩ :: ledger.alive)
      (opened : after.opened = ledger.nextSpan index :: ledger.opened) :
      Noted index ledger after (.enter index)
  | dropped {guard : Nat} (own : ledger.logging.guards[guard]? = some (some index))
      (stack : after.stack index = (ledger.stack index).tail)
      (nextSpan : after.nextSpan index = ledger.nextSpan index)
      (guards : after.logging.guards = ledger.logging.guards.set guard none)
      (alive : after.alive = ledger.alive.filter (·.number ≠ guard))
      (opened : after.opened = ledger.opened) :
      Noted index ledger after (.drop guard)
  | elsewhere {use : SpanUse}
      (stack : after.stack index = ledger.stack index)
      (nextSpan : after.nextSpan index = ledger.nextSpan index)
      (count : after.logging.guards.count (some index) =
        ledger.logging.guards.count (some index))
      (guards : forall n : Nat, after.logging.guards[n]? = some (some index) <->
        ledger.logging.guards[n]? = some (some index))
      (alive : after.alive = ledger.alive)
      (opened : after.opened = ledger.opened) :
      Noted index ledger after use

structure IsKept (index : Nat) (ledger : Ledger) : Prop where
  found : index < ledger.logging.loggers.length
  depth : (ledger.stack index).length = ledger.logging.guards.count (some index)
  stacked : (ledger.stack index).Sublist ledger.opened
  numbered : ledger.opened.Pairwise (· > ·)
  used : forall id, id ∈ ledger.opened -> id < ledger.nextSpan index
  guards : forall n : Nat, ledger.logging.guards[n]? = some (some index) <->
    n ∈ ledger.alive.map (·.number)
  ordered : (ledger.alive.map (·.number)).Pairwise (· > ·)

theorem length_loggers_note (index : Nat) (ledger : Ledger) (use : SpanUse) :
    (ledger.note index use).logging.loggers.length = ledger.logging.loggers.length := by
  cases use with
  | enter logger => exact List.length_modify _ _ _
  | drop guard =>
      simp only [note, SpanUse.act, Logging.drop]
      split
      · rfl
      · exact List.length_modify _ _ _
  | log logger level target message =>
      rcases ledger.logging.log_eq logger level target message with ⟨outlets, h⟩
      simp only [note, SpanUse.act, h]

theorem getElem?_append_of_ne {guards : List (Option Nat)} {guard owner : Option Nat}
    (h : guard ≠ owner) (n : Nat) :
    (guards ++ [guard])[n]? = some owner <-> guards[n]? = some owner := by
  rw [List.getElem?_append]
  split
  · rfl
  · next hlength =>
      rw [List.getElem?_eq_none (Nat.le_of_not_lt hlength), List.getElem?_singleton]
      split
      · simp [h]
      · rfl

theorem getElem?_append_self (guards : List (Option Nat)) (owner : Option Nat) (n : Nat) :
    (guards ++ [owner])[n]? = some owner <-> n = guards.length ∨ guards[n]? = some owner := by
  rcases Nat.lt_trichotomy n guards.length with hn | rfl | hn
  · rw [List.getElem?_append_left hn]
    simp [Nat.ne_of_lt hn]
  · simp
  · have hlength : (guards ++ [owner]).length ≤ n := by
      rw [List.length_append]
      exact hn
    rw [List.getElem?_eq_none hlength, List.getElem?_eq_none (Nat.le_of_lt hn)]
    simp [Nat.ne_of_gt hn]

theorem getElem?_set_none {guards : List (Option Nat)} (guard n index : Nat) :
    (guards.set guard none)[n]? = some (some index) <->
      guards[n]? = some (some index) ∧ n ≠ guard := by
  rw [List.getElem?_set]
  split
  · next h =>
      subst h
      simp
  · next h => simp [Ne.symm h]

theorem count_set_none (guards : List (Option Nat)) (guard index : Nat) :
    (guards.set guard none).count (some index) =
      guards.count (some index) - if guards[guard]? = some (some index) then 1 else 0 := by
  by_cases hguard : guard < guards.length
  · rw [List.count_set hguard, List.getElem?_eq_getElem hguard]
    simp
  · have hlength := Nat.le_of_not_lt hguard
    rw [List.set_eq_of_length_le hlength, List.getElem?_eq_none hlength]
    simp

theorem noted_enter {index : Nat} {ledger : Ledger} (h : ledger.IsKept index) (logger : Nat) :
    Noted index ledger (ledger.note index (.enter logger)) (.enter logger) := by
  by_cases hlogger : logger = index
  · subst hlogger
    have hafter : (ledger.note logger (.enter logger)).logging.logger logger =
        (ledger.logging.logger logger).enter := Logging.logger_update h.found
    apply Noted.entered
    · exact congrArg Logger.spans hafter
    · exact congrArg Logger.nextSpan hafter
    · rfl
    · exact if_pos rfl
    · exact if_pos rfl
  · have hafter : (ledger.note index (.enter logger)).logging.logger index =
        ledger.logging.logger index := Logging.logger_update_of_ne hlogger
    have hguard : some logger ≠ some index := fun h => hlogger (Option.some.inj h)
    apply Noted.elsewhere
    · exact congrArg Logger.spans hafter
    · exact congrArg Logger.nextSpan hafter
    · show (ledger.logging.guards ++ [some logger]).count (some index) = _
      rw [List.count_append, List.count_singleton, beq_false_of_ne hguard]
      rfl
    · exact getElem?_append_of_ne hguard
    · exact if_neg hlogger
    · exact if_neg hlogger

theorem noted_drop {index : Nat} {ledger : Ledger} (h : ledger.IsKept index) (guard : Nat) :
    Noted index ledger (ledger.note index (.drop guard)) (.drop guard) := by
  have halive (hother : ledger.logging.guards[guard]? ≠ some (some index)) :
      (ledger.note index (.drop guard)).alive = ledger.alive := by
    apply List.filter_eq_self.mpr
    intro live hlive
    apply decide_eq_true
    intro hnumber
    apply hother
    rw [← hnumber]
    exact (h.guards _).mpr (List.mem_map_of_mem hlive)
  rcases ledger.logging.drop_cases guard with ⟨hnone, hdrop⟩ | ⟨owner, howner, hdrop⟩
  · have hafter : (ledger.note index (.drop guard)).logging = ledger.logging := hdrop
    apply Noted.elsewhere
    · exact congrArg (fun logging => (logging.logger index).spans) hafter
    · exact congrArg (fun logging => (logging.logger index).nextSpan) hafter
    · rw [hafter]
    · intro n
      rw [hafter]
    · exact halive (hnone index)
    · rfl
  · have hguards : (ledger.note index (.drop guard)).logging.guards =
        ledger.logging.guards.set guard none := congrArg Logging.guards hdrop
    have hloggers (other : Nat) : (ledger.note index (.drop guard)).logging.logger other =
        (ledger.logging.update owner Logger.leave).logger other :=
      congrArg (fun logging => logging.logger other) hdrop
    by_cases hindex : owner = index
    · subst hindex
      have hafter := (hloggers owner).trans (Logging.logger_update h.found)
      apply Noted.dropped howner
      · exact congrArg Logger.spans hafter
      · exact (congrArg Logger.nextSpan hafter).trans rfl
      · exact hguards
      · rfl
      · rfl
    · have hafter := (hloggers index).trans (Logging.logger_update_of_ne hindex)
      have hother : ledger.logging.guards[guard]? ≠ some (some index) := by
        rw [howner]
        exact fun h => hindex (Option.some.inj (Option.some.inj h))
      apply Noted.elsewhere
      · exact congrArg Logger.spans hafter
      · exact congrArg Logger.nextSpan hafter
      · rw [hguards, count_set_none, if_neg hother]
        rfl
      · intro n
        rw [hguards, getElem?_set_none]
        exact ⟨And.left, fun hn => ⟨hn, fun hsame => hother (hsame ▸ hn)⟩⟩
      · exact halive hother
      · rfl

theorem noted_log {index : Nat} (ledger : Ledger) (logger : Nat) (level : Level)
    (target message : String) :
    Noted index ledger (ledger.note index (.log logger level target message))
      (.log logger level target message) := by
  rcases ledger.logging.log_eq logger level target message with ⟨outlets, hlog⟩
  have hafter : (ledger.note index (.log logger level target message)).logging =
      { ledger.logging with outlets } := hlog
  apply Noted.elsewhere
  · exact congrArg (fun logging => (logging.logger index).spans) hafter
  · exact congrArg (fun logging => (logging.logger index).nextSpan) hafter
  · rw [hafter]
  · intro n
    rw [hafter]
  · rfl
  · rfl

theorem noted {index : Nat} {ledger : Ledger} (h : ledger.IsKept index) (use : SpanUse) :
    Noted index ledger (ledger.note index use) use := by
  cases use with
  | enter logger => exact noted_enter h logger
  | drop guard => exact noted_drop h guard
  | log logger level target message => exact noted_log ledger logger level target message

/-!
# All steps
-/

theorem map_number_filter (alive : List LiveGuard) (guard : Nat) :
    (alive.filter (·.number ≠ guard)).map (·.number) =
      (alive.map (·.number)).filter (· ≠ guard) := by
  rw [List.filter_map]
  rfl

theorem IsKept.note {index : Nat} {ledger : Ledger} (h : ledger.IsKept index)
    (use : SpanUse) : (ledger.note index use).IsKept index := by
  have hfound : index < (ledger.note index use).logging.loggers.length := by
    rw [length_loggers_note]
    exact h.found
  cases noted h use with
  | entered stack nextSpan guards alive opened =>
      have hlast (n : Nat) (hn : n ∈ ledger.alive.map (·.number)) :
          n < ledger.logging.guards.length :=
        (List.getElem?_eq_some_iff.mp ((h.guards n).mpr hn)).1
      refine ⟨hfound, ?_, ?_, ?_, ?_, ?_, ?_⟩
      · rw [stack, guards, List.length_cons, h.depth, List.count_append,
          List.count_singleton_self]
      · rw [stack, opened]
        exact h.stacked.cons_cons _
      · rw [opened]
        exact List.pairwise_cons.mpr ⟨h.used, h.numbered⟩
      · intro id hid
        rw [opened] at hid
        rw [nextSpan]
        rcases List.mem_cons.mp hid with rfl | hid
        · exact Nat.lt_succ_self _
        · exact Nat.lt_succ_of_lt (h.used id hid)
      · intro n
        rw [guards, alive, List.map_cons, List.mem_cons, ← h.guards n]
        exact getElem?_append_self _ _ _
      · rw [alive, List.map_cons]
        exact List.pairwise_cons.mpr ⟨hlast, h.ordered⟩
  | dropped own stack nextSpan guards alive opened =>
      refine ⟨hfound, ?_, ?_, ?_, ?_, ?_, ?_⟩
      · rw [stack, guards, List.length_tail, h.depth, count_set_none, if_pos own]
      · rw [stack, opened]
        exact (List.tail_sublist _).trans h.stacked
      · rw [opened]
        exact h.numbered
      · intro id hid
        rw [opened] at hid
        rw [nextSpan]
        exact h.used id hid
      · intro n
        rw [guards, alive, getElem?_set_none, h.guards n, map_number_filter, List.mem_filter]
        simp
      · rw [alive]
        exact h.ordered.sublist (List.filter_sublist.map _)
  | elsewhere stack nextSpan count guards alive opened =>
      refine ⟨hfound, ?_, ?_, ?_, ?_, ?_, ?_⟩
      · rw [stack, count]
        exact h.depth
      · rw [stack, opened]
        exact h.stacked
      · rw [opened]
        exact h.numbered
      · rw [opened, nextSpan]
        exact h.used
      · intro n
        rw [guards n, alive]
        exact h.guards n
      · rw [alive]
        exact h.ordered

theorem IsKept.run {index : Nat} {ledger : Ledger} (h : ledger.IsKept index)
    (uses : List SpanUse) : (ledger.run index uses).IsKept index := by
  induction uses generalizing ledger with
  | nil => exact h
  | cons use rest ih => exact ih (h.note use)

def IsGone (index id : Nat) (ledger : Ledger) : Prop :=
  id ∈ ledger.opened ∧ id ∉ ledger.stack index

theorem IsGone.note {index id : Nat} {ledger : Ledger} (hgone : ledger.IsGone index id)
    (h : ledger.IsKept index) (use : SpanUse) : (ledger.note index use).IsGone index id := by
  rcases hgone with ⟨hopened, hstack⟩
  cases noted h use with
  | entered stack nextSpan guards alive opened =>
      refine ⟨opened ▸ List.mem_cons_of_mem _ hopened, ?_⟩
      rw [stack]
      intro hid
      rcases List.mem_cons.mp hid with rfl | hid
      · exact Nat.lt_irrefl _ (h.used _ hopened)
      · exact hstack hid
  | dropped own stack nextSpan guards alive opened =>
      exact ⟨opened ▸ hopened, fun hid => hstack (List.mem_of_mem_tail (stack ▸ hid))⟩
  | elsewhere stack nextSpan count guards alive opened =>
      exact ⟨opened ▸ hopened, stack ▸ hstack⟩

theorem IsGone.run {index id : Nat} {ledger : Ledger} (hgone : ledger.IsGone index id)
    (h : ledger.IsKept index) (uses : List SpanUse) :
    (ledger.run index uses).IsGone index id := by
  induction uses generalizing ledger with
  | nil => exact hgone
  | cons use rest ih => exact ih (hgone.note h use) (h.note use)

def IsMatched (index : Nat) (ledger : Ledger) : Prop :=
  ledger.stack index = ledger.alive.map (·.span)

theorem filter_number_of_last {alive : List LiveGuard} {guard : Nat}
    (hordered : (alive.map (·.number)).Pairwise (· > ·))
    (hlast : (alive.map (·.number)).head? = some guard) :
    alive.filter (·.number ≠ guard) = alive.tail := by
  cases alive with
  | nil => rfl
  | cons last rest =>
      have hnumber : last.number = guard := Option.some.inj hlast
      rw [List.filter_cons_of_neg (by simp [hnumber])]
      apply List.filter_eq_self.mpr
      intro live hlive
      have hbelow := (List.pairwise_cons.mp hordered).1 _ (List.mem_map_of_mem hlive)
      exact decide_eq_true (Nat.ne_of_lt (hnumber ▸ hbelow))

theorem IsMatched.note {index : Nat} {ledger : Ledger} (hmatched : ledger.IsMatched index)
    (h : ledger.IsKept index) {use : SpanUse} (hlast : ledger.DropsLast use) :
    (ledger.note index use).IsMatched index := by
  unfold IsMatched at hmatched ⊢
  cases noted h use with
  | entered stack nextSpan guards alive opened => rw [stack, alive, hmatched, List.map_cons]
  | dropped own stack nextSpan guards alive opened =>
      have hguard := hlast ((h.guards _).mp own)
      rw [stack, alive, hmatched, filter_number_of_last h.ordered hguard, List.map_tail]
  | elsewhere stack nextSpan count guards alive opened => rw [stack, alive, hmatched]

theorem IsMatched.run {index : Nat} {ledger : Ledger} (hmatched : ledger.IsMatched index)
    (h : ledger.IsKept index) {uses : List SpanUse} (horderly : IsOrderly index ledger uses) :
    (ledger.run index uses).IsMatched index := by
  induction uses generalizing ledger with
  | nil => exact hmatched
  | cons use rest ih => exact ih (hmatched.note h horderly.1) (h.note use) horderly.2

end Ledger

/-!
# The law of the stack
-/

/-- The logger is there, has no open spans, and no guard is left that would close one. -/
structure Logging.IsIdle (logging : Logging) (index : Nat) : Prop where
  found : index < logging.loggers.length
  spans : (logging.logger index).spans = []
  guards : some index ∉ logging.guards

theorem Logging.IsIdle.isKept {logging : Logging} {index : Nat} (h : logging.IsIdle index) :
    ({ logging } : Ledger).IsKept index where
  found := h.found
  depth := (congrArg List.length h.spans).trans (List.count_eq_zero.mpr h.guards).symm
  stacked := by
    unfold Ledger.stack
    rw [h.spans]
  numbered := List.Pairwise.nil
  used _ hid := nomatch hid
  guards n := ⟨fun hn => absurd (List.mem_of_getElem? hn) h.guards, fun hn => nomatch hn⟩
  ordered := List.Pairwise.nil

theorem span_of_mem_deliveries {logging : Logging} {caller : Nat} {level : Level}
    {target message : String} {delivery : Delivery}
    (hmem : delivery ∈ logging.deliveries caller level target message) :
    exists last, LeadsTo logging.loggers caller last ∧
      delivery.record.span = (logging.logger last).spans.head? := by
  rcases record_of_mem_deliveries hmem with ⟨last, logger, hleads, hfound, hrecord⟩
  refine ⟨last, hleads, ?_⟩
  rw [hrecord, Logging.logger_of_getElem? hfound]
  rfl

/-- A logger whose sinks are no loggers makes all of its records itself. -/
theorem LeadsTo.eq_of_ends {logging : Logging} {index last : Nat}
    (hends : forall earlier, Sink.logger earlier ∉ (logging.logger index).sinks)
    (h : LeadsTo logging.loggers index last) : last = index := by
  cases h with
  | refl => rfl
  | sink found attached rest =>
      rw [Logging.logger_of_getElem? found] at hends
      exact absurd attached (hends _)

/-- What holds of a logger after all that has been done from some beginning on, its
innermost span being the first of the stack. -/
structure StackLaw (index : Nat) (start : Logging) (uses : List SpanUse) (ledger : Ledger) :
    Prop where
  logging : ledger.logging = uses.foldl (fun logging use => use.act logging) start
  /-- The guards of the ledger are those that are left, the last one first. -/
  alive : forall n : Nat, ledger.logging.guards[n]? = some (some index) <->
    n ∈ ledger.alive.map (·.number)
  recent : (ledger.alive.map (·.number)).Pairwise (· > ·)
  depth : (ledger.stack index).length = ledger.logging.guards.count (some index)
  increasing : (ledger.stack index).reverse.Pairwise (· < ·)
  entered : forall id, id ∈ ledger.stack index -> id ∈ ledger.opened
  /-- What has left the stack before is not on it now. -/
  gone : forall earlier later, uses = earlier ++ later ->
    forall id, id ∈ (Ledger.run index { logging := start } earlier).opened ->
      id ∉ (Ledger.run index { logging := start } earlier).stack index ->
      id ∉ ledger.stack index
  /-- A record that is logged now names the innermost span of its maker. -/
  records : forall caller level target message delivery,
    delivery ∈ ledger.logging.deliveries caller level target message ->
      exists maker, LeadsTo ledger.logging.loggers caller maker ∧
        delivery.record.span = (ledger.logging.logger maker).spans.head?
  /-- The logger itself makes all that is logged with it, if it passes nothing on. -/
  own : (forall earlier, Sink.logger earlier ∉ (ledger.logging.logger index).sinks) ->
    forall level target message delivery,
      delivery ∈ ledger.logging.deliveries index level target message ->
      delivery.record.span = (ledger.stack index).head?
  spanless : (ledger.stack index).head? = none <-> some index ∉ ledger.logging.guards
  orderly : Ledger.IsOrderly index { logging := start } uses ->
    ledger.stack index = ledger.alive.map (·.span) ∧
      (ledger.stack index).head? = ledger.alive.head?.map (·.span)

/-- The law of the stack, in whatever order guards are dropped. -/
theorem stackLaw_run {index : Nat} {start : Logging} (hidle : start.IsIdle index)
    (uses : List SpanUse) :
    StackLaw index start uses (Ledger.run index { logging := start } uses) := by
  have hkept := hidle.isKept.run uses
  refine
    { logging := Ledger.logging_run index _ uses
      alive := hkept.guards
      recent := hkept.ordered
      depth := hkept.depth
      increasing := List.pairwise_reverse.mpr (hkept.numbered.sublist hkept.stacked)
      entered := fun id hid => hkept.stacked.subset hid
      gone := ?_
      records := ?_
      own := ?_
      spanless := ?_
      orderly := ?_ }
  · intro earlier later huses id hopened hstack
    rw [huses, Ledger.run_append]
    exact (Ledger.IsGone.run ⟨hopened, hstack⟩ (hidle.isKept.run earlier) later).2
  · intro caller level target message delivery hmem
    exact span_of_mem_deliveries hmem
  · intro hends level target message delivery hmem
    rcases span_of_mem_deliveries hmem with ⟨maker, hleads, hspan⟩
    rw [hspan, hleads.eq_of_ends hends]
    rfl
  · rw [List.head?_eq_none_iff, ← List.length_eq_zero_iff, hkept.depth, List.count_eq_zero]
  · intro horderly
    have hstart : ({ logging := start } : Ledger).IsMatched index := hidle.spans
    have hmatched := hstart.run hidle.isKept horderly
    exact ⟨hmatched, by rw [hmatched, List.head?_map]⟩

def keepingAll : Logging where
  loggers := [{ level := .trace, sinks := [.memory] }]

/-- Two spans open, one of the guards is dropped, and a message is logged. -/
def droppingOneOfTwo (guard : Nat) : List SpanUse :=
  [.enter 0, .enter 0, .drop guard, .log 0 .info "work" "done"]

/-- The outer span is left whichever guard is dropped, and it belongs to the first guard. -/
theorem stackLaw_run_droppingOneOfTwo :
    keepingAll.IsIdle 0 ∧
    Ledger.IsOrderly 0 { logging := keepingAll } (droppingOneOfTwo 1) ∧
    (Ledger.run 0 { logging := keepingAll } (droppingOneOfTwo 1)).stack 0 = [1] ∧
    ((droppingOneOfTwo 1).foldl (fun logging use => use.act logging)
      keepingAll).outlets.memory.map (·.span) = [some 1] ∧
    ¬ Ledger.IsOrderly 0 { logging := keepingAll } (droppingOneOfTwo 0) ∧
    ((Ledger.run 0 { logging := keepingAll } (droppingOneOfTwo 0)).stack 0).length = 1 ∧
    (Ledger.run 0 { logging := keepingAll } (droppingOneOfTwo 0)).alive = [⟨1, 2⟩] := by
  have hidle : keepingAll.IsIdle 0 := ⟨by decide, rfl, by decide⟩
  have horderly :
      Ledger.IsOrderly 0 { logging := keepingAll } (droppingOneOfTwo 1) := by decide
  have hlaw := stackLaw_run hidle (droppingOneOfTwo 1)
  have hlawless := stackLaw_run hidle (droppingOneOfTwo 0)
  refine ⟨hidle, horderly, ?_, ?_, by decide, ?_, by decide⟩
  · exact (hlaw.orderly horderly).1.trans (by decide)
  · decide +kernel
  · exact hlawless.depth.trans (by decide +kernel)

end Log
end CompileOnLoad
