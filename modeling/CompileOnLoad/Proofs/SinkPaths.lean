import CompileOnLoad.Log.Logger
import Mathlib.Data.List.Basic

/-!
# Ways through loggers

The sinks of loggers make up a graph without cycles, in which the same ring or logger can
be reached along many ways.  A record is written once for each way along which all loggers
let it pass, and the ways are taken depth first, in the order of the sinks.
-/

namespace CompileOnLoad
namespace Log

/-- A way from a logger to a ring: the places of the sinks that are taken, the last logger,
and the ring. -/
structure SinkPath where
  turns : List Nat
  last : Nat
  ring : Nat

namespace SinkPath

def after (turn : Nat) (path : SinkPath) : SinkPath :=
  { path with turns := turn :: path.turns }

/-- The way leads from a logger to a ring, and no logger on it has a level above the
given one. -/
inductive IsOpen (loggers : List Logger) (level : Level) : Nat -> SinkPath -> Prop where
  | ring {index turn ring : Nat} {logger : Logger} (found : loggers[index]? = some logger)
      (passes : logger.level.rank ≤ level.rank)
      (taken : logger.sinks[turn]? = some (.ring ring)) :
      IsOpen loggers level index ⟨[turn], index, ring⟩
  | logger {index turn earlier : Nat} {logger : Logger} {path : SinkPath}
      (found : loggers[index]? = some logger)
      (passes : logger.level.rank ≤ level.rank)
      (taken : logger.sinks[turn]? = some (.logger earlier))
      (rest : IsOpen loggers level earlier path) :
      IsOpen loggers level index (path.after turn)

end SinkPath

/-- The sink is one of some rings, or a logger before the given one. -/
def Sink.isBehind (index rings : Nat) : Sink -> Bool
  | ring r => r < rings
  | logger earlier => earlier < index
  | _ => false

def Logging.IsChained (logging : Logging) : Prop :=
  forall (index : Fin logging.loggers.length) (sink : Sink),
    sink ∈ (logging.loggers.get index).sinks ->
      sink.isBehind index logging.outlets.rings.length = true

instance (logging : Logging) : Decidable logging.IsChained :=
  inferInstanceAs (Decidable (forall index : Fin logging.loggers.length,
    forall sink, sink ∈ (logging.loggers.get index).sinks -> _))

theorem Logging.IsChained.isBehind {logging : Logging} (h : logging.IsChained) {index : Nat}
    {logger : Logger} {sink : Sink} (hfound : logging.loggers[index]? = some logger)
    (hsink : sink ∈ logger.sinks) :
    sink.isBehind index logging.outlets.rings.length = true := by
  rcases List.getElem?_eq_some_iff.mp hfound with ⟨hindex, rfl⟩
  exact h ⟨index, hindex⟩ sink hsink

def pathsBy (index : Nat) (onward : Nat -> List SinkPath) (turn : Nat) :
    Sink -> List SinkPath
  | .ring ring => [⟨[turn], index, ring⟩]
  | .logger earlier => (onward earlier).map (·.after turn)
  | _ => []

def openPaths (loggers : List Logger) (level : Level) (index : Nat) : List SinkPath :=
  match loggers[index]? with
  | none => []
  | some logger =>
    if logger.isEnabled level then
      logger.sinks.zipIdx.flatMap fun (sink, turn) =>
        let onward earlier := if earlier < index then openPaths loggers level earlier else []
        pathsBy index onward turn sink
    else []
termination_by index

section

variable {loggers : List Logger} {logger : Logger} {level : Level} {index turn : Nat}
variable {sink : Sink} {path : SinkPath} {onward : Nat -> List SinkPath}

theorem isEnabled_iff : logger.isEnabled level = true <-> logger.level.rank ≤ level.rank :=
  decide_eq_true_iff

theorem mem_pathsBy :
    path ∈ pathsBy index onward turn sink <->
      (exists ring, sink = .ring ring ∧ path = ⟨[turn], index, ring⟩) ∨
        exists earlier rest, sink = .logger earlier ∧ rest ∈ onward earlier ∧
          path = rest.after turn := by
  unfold pathsBy
  cases sink with
  | ring ring => simp
  | logger earlier => simp [eq_comm]
  | _ => simp

theorem head_turns_of_mem_pathsBy (hpath : path ∈ pathsBy index onward turn sink) :
    path.turns.head? = some turn := by
  rcases mem_pathsBy.mp hpath with ⟨ring, -, rfl⟩ | ⟨earlier, rest, -, -, rfl⟩
  · rfl
  · rfl

theorem pairwise_pathsBy
    (honward : forall earlier, (onward earlier).Pairwise fun path later =>
      path.turns < later.turns) (turn : Nat) (sink : Sink) :
    (pathsBy index onward turn sink).Pairwise fun path later => path.turns < later.turns := by
  cases sink with
  | ring ring => exact List.pairwise_singleton _ _
  | logger earlier =>
      apply List.pairwise_map.mpr
      exact (honward earlier).imp fun h => List.Lex.cons h
  | _ => exact List.Pairwise.nil

theorem pairwise_zipIdx (sinks : List Sink) :
    sinks.zipIdx.Pairwise fun first second => first.2 < second.2 := by
  rw [← List.pairwise_map, List.zipIdx_map_snd]
  exact List.pairwise_lt_range'

theorem pairwise_openPaths (loggers : List Logger) (level : Level) (index : Nat) :
    (openPaths loggers level index).Pairwise fun path later => path.turns < later.turns := by
  -- A way goes on from an earlier logger, so the induction is on the number of the logger.
  induction index using Nat.strongRecOn with
  | ind index ih =>
      rw [openPaths]
      split
      · exact List.Pairwise.nil
      · split
        · apply List.pairwise_flatMap.mpr
          constructor
          · rintro ⟨sink, turn⟩ -
            apply pairwise_pathsBy
            intro earlier
            split
            · next hearlier => exact ih earlier hearlier
            · exact List.Pairwise.nil
          · apply (pairwise_zipIdx _).imp
            intro first second hturns path hpath later hlater
            have hpath := head_turns_of_mem_pathsBy hpath
            have hlater := head_turns_of_mem_pathsBy hlater
            rcases List.head?_eq_some_iff.mp hpath with ⟨rest, hpath⟩
            rcases List.head?_eq_some_iff.mp hlater with ⟨others, hlater⟩
            rw [hpath, hlater]
            exact List.Lex.rel hturns
        · exact List.Pairwise.nil

theorem mem_openPaths_iff :
    path ∈ openPaths loggers level index <->
      exists logger turn sink, loggers[index]? = some logger ∧
        logger.level.rank ≤ level.rank ∧ logger.sinks[turn]? = some sink ∧
        path ∈ pathsBy index
          (fun earlier => if earlier < index then openPaths loggers level earlier else [])
          turn sink := by
  rw [openPaths]
  constructor
  · intro hpath
    split at hpath
    · cases hpath
    · next logger hfound =>
        split at hpath
        · next henabled =>
            rcases List.mem_flatMap.mp hpath with ⟨⟨sink, turn⟩, hsink, hpath⟩
            exact ⟨logger, turn, sink, hfound, isEnabled_iff.mp henabled,
              List.mk_mem_zipIdx_iff_getElem?.mp hsink, hpath⟩
        · cases hpath
  · rintro ⟨logger, turn, sink, hfound, hpasses, htaken, hpath⟩
    simp only [hfound, isEnabled_iff.mpr hpasses, if_true]
    exact List.mem_flatMap.mpr ⟨_, List.mk_mem_zipIdx_iff_getElem?.mpr htaken, hpath⟩

end

section

variable {logging : Logging} {level : Level} {index : Nat} {path : SinkPath}

theorem mem_openPaths (hchained : logging.IsChained) :
    path ∈ openPaths logging.loggers level index <->
      path.IsOpen logging.loggers level index := by
  constructor
  · induction index using Nat.strongRecOn generalizing path with
    | ind index ih =>
        intro hpath
        rcases mem_openPaths_iff.mp hpath
          with ⟨logger, turn, sink, hfound, hpasses, htaken, hpath⟩
        rcases mem_pathsBy.mp hpath with ⟨ring, rfl, rfl⟩ | ⟨earlier, rest, rfl, hrest, rfl⟩
        · exact .ring hfound hpasses htaken
        · split at hrest
          · next hearlier => exact .logger hfound hpasses htaken (ih earlier hearlier hrest)
          · cases hrest
  · intro hopen
    induction hopen with
    | ring found passes taken =>
        apply mem_openPaths_iff.mpr
        exact ⟨_, _, _, found, passes, taken, mem_pathsBy.mpr (.inl ⟨_, rfl, rfl⟩)⟩
    | @logger index turn earlier logger path found passes taken rest ih =>
        have hearlier : earlier < index :=
          decide_eq_true_iff.mp (hchained.isBehind found (List.mem_of_getElem? taken))
        apply mem_openPaths_iff.mpr
        refine ⟨_, _, _, found, passes, taken, ?_⟩
        refine mem_pathsBy.mpr (.inr ⟨earlier, path, rfl, ?_, rfl⟩)
        rw [if_pos hearlier]
        exact ih

theorem SinkPath.IsOpen.ring_lt (hchained : logging.IsChained)
    (hopen : path.IsOpen logging.loggers level index) :
    path.ring < logging.outlets.rings.length := by
  induction hopen with
  | ring found passes taken =>
      exact decide_eq_true_iff.mp (hchained.isBehind found (List.mem_of_getElem? taken))
  | logger found passes taken rest ih => exact ih

end

/-- A logger that leads to no other logger sends a record to each of its sinks. -/
theorem deliveries_of_direct {loggers : List Logger} {index : Nat} {logger : Logger}
    (hfound : loggers[index]? = some logger)
    (hdirect : forall earlier, Sink.logger earlier ∉ logger.sinks) (now : UInt64)
    (level : Level) (target message : String) :
    deliveries loggers now index level target message =
      if logger.isEnabled level then
        logger.sinks.map (Delivery.mk · (logger.record now level target message))
      else [] := by
  rw [deliveries, hfound]
  simp only
  split
  · rw [List.map_eq_flatMap]
    apply List.flatMap_congr
    intro sink hmem
    cases sink with
    | logger earlier => exact absurd hmem (hdirect earlier)
    | _ => rfl
  · rfl

namespace Logging

/-- The record of a message that comes along a way: the last logger adds its span. -/
def recordAlong (logging : Logging) (level : Level) (target message : String)
    (path : SinkPath) : Record :=
  ⟨logging.now, level, target, (logging.logger path.last).spans.head?, message⟩

variable {logging : Logging} {index : Nat}

theorem logger_of_getElem? {logger : Logger}
    (hfound : logging.loggers[index]? = some logger) : logging.logger index = logger := by
  unfold Logging.logger
  rw [List.getD_eq_getElem?_getD, hfound]
  rfl

theorem deliveries_eq_map (hchained : logging.IsChained) (index : Nat) (level : Level)
    (target message : String) :
    logging.deliveries index level target message =
      (openPaths logging.loggers level index).map fun path =>
        ⟨.ring path.ring, logging.recordAlong level target message path⟩ := by
  unfold deliveries
  induction index using Nat.strongRecOn with
  | ind index ih =>
      rw [Log.deliveries, openPaths]
      cases hfound : logging.loggers[index]? with
      | none => rfl
      | some logger =>
          have hlogger := logger_of_getElem? hfound
          simp only
          split
          · conv =>
              lhs
              rw [← List.zipIdx_map_fst 0 logger.sinks]
            rw [List.flatMap_map, List.map_flatMap]
            apply List.flatMap_congr
            rintro ⟨sink, turn⟩ hsink
            have hbehind := hchained.isBehind hfound (List.fst_mem_of_mem_zipIdx hsink)
            cases sink with
            | ring ring =>
                rw [← hlogger]
                rfl
            | logger earlier =>
                have hearlier : earlier < index := decide_eq_true_iff.mp hbehind
                simp only [pathsBy, if_pos hearlier, ih earlier hearlier, List.map_map]
                rfl
            | _ => cases hbehind
          · rfl

theorem log_eq_foldl (logging : Logging) (index : Nat) (level : Level)
    (target message : String) :
    logging.log index level target message =
      { logging with
        outlets := (logging.deliveries index level target message).foldl Outlets.receive
          logging.outlets } := by
  unfold log
  generalize logging.deliveries index level target message = delivered
  induction delivered generalizing logging with
  | nil => rfl
  | cons delivery rest ih => exact ih (logging.receive delivery)

theorem foldl_receive_rings (logging : Logging) (record : SinkPath -> Record)
    (paths : List SinkPath) :
    (paths.map fun path =>
        Delivery.mk (.ring path.ring) (record path)).foldl receive logging =
      { logging with
        outlets := { logging.outlets with
          rings :=
            paths.foldl (fun rings path => rings.modify path.ring (·.push (record path)))
              logging.outlets.rings } } := by
  induction paths generalizing logging with
  | nil => rfl
  | cons path rest ih => exact ih _

/-- A message is written along some ways: these are the open ones, each of them once and
depth first, and nothing but the rings at their ends is changed. -/
structure IsWrittenAlong (logging : Logging) (index : Nat) (level : Level)
    (target message : String) (paths : List SinkPath) : Prop where
  complete : forall path, path ∈ paths <-> path.IsOpen logging.loggers level index
  ordered : paths.Pairwise fun path later => path.turns < later.turns
  inRange : forall path, path ∈ paths -> path.ring < logging.outlets.rings.length
  written : logging.log index level target message =
    { logging with
      outlets := { logging.outlets with
        rings := paths.foldl
          (fun rings path => rings.modify path.ring
            (·.push (logging.recordAlong level target message path)))
          logging.outlets.rings } }
  /-- A logger that is disabled for the level writes nothing at all. -/
  disabled : logging.isEnabled index level = false ->
    logging.log index level target message = logging

theorem log_of_disabled {level : Level}
    (hdisabled : logging.isEnabled index level = false) (target message : String) :
    logging.log index level target message = logging := by
  have hnone : logging.deliveries index level target message = [] := by
    unfold deliveries
    rw [Log.deliveries]
    cases hfound : logging.loggers[index]? with
    | none => rfl
    | some logger =>
        unfold isEnabled at hdisabled
        rw [logger_of_getElem? hfound] at hdisabled
        simp only [hdisabled]
        rfl
  unfold log
  rw [hnone]
  rfl

/-- Along chained loggers, a message is written once for each open way. -/
theorem exists_isWrittenAlong (hchained : logging.IsChained) (index : Nat) (level : Level)
    (target message : String) :
    exists paths, logging.IsWrittenAlong index level target message paths := by
  refine ⟨openPaths logging.loggers level index, ?_⟩
  constructor
  case complete => exact fun path => mem_openPaths hchained
  case ordered => exact pairwise_openPaths logging.loggers level index
  case inRange => exact fun path hpath => ((mem_openPaths hchained).mp hpath).ring_lt hchained
  case written =>
    unfold log
    rw [deliveries_eq_map hchained]
    exact foldl_receive_rings logging _ _
  case disabled => exact fun hdisabled => log_of_disabled hdisabled target message

/-- The same ring is reached straight and by two loggers, one of which is attached twice,
and by another one that lets only errors pass. -/
def sharing : Logging where
  loggers :=
    [{ level := .info, sinks := [.ring 0], spans := [7, 4] },
      { level := .error, sinks := [.ring 0, .logger 0], spans := [9] },
      { level := .debug, sinks := [.logger 0, .ring 1, .logger 1, .logger 0] },
      { level := .trace, sinks := [.logger 2, .ring 0, .logger 1, .logger 0], spans := [3] }]
  outlets := { rings := [{ capacity := 8 }, { capacity := 0 }] }
  now := 12

/-- The four records that reach the first ring, by the spans of the loggers that they come
through last, and the one that the second has no room for. -/
theorem exists_isWrittenAlong_sharing :
    sharing.IsChained ∧
      (exists paths, sharing.IsWrittenAlong 3 .info "demo" "ready" paths) ∧
      (sharing.log 3 .info "demo" "ready").outlets.rings =
        [{ capacity := 8,
           records := [some 7, some 7, some 3, some 7].map fun span =>
            ⟨12, .info, "demo", span, "ready"⟩ },
          { capacity := 0, dropped := 1 }] := by
  have hchained : sharing.IsChained := by decide
  exact ⟨hchained, exists_isWrittenAlong hchained 3 .info "demo" "ready", by decide +kernel⟩

end Logging
end Log
end CompileOnLoad
