import CompileOnLoad.Proofs.ConfigBuilding
import CompileOnLoad.Proofs.Retention
import CompileOnLoad.Proofs.SinkPaths

/-!
# From a configuration to a logger

The outputs of a configuration become the sinks of a new logger, one after the other and
without those whose file cannot be opened.  The ring that is reported was made for the last
output that asked for one.  As the logger sends each of its records to this ring once, the
ring holds the last of all that was logged at or above the level.
-/

namespace CompileOnLoad
namespace Log

def Output.capacity? : Output -> Option Nat
  | ring capacity => some capacity
  | _ => none

def Sink.ring? : Sink -> Option Nat
  | ring index => some index
  | _ => none

def Ring.empty (capacity : Nat) : Ring := { capacity }

/-!
# Sinks
-/

/-- The sinks of outputs, in their order, and what the outlets become.  Rings are numbered as
they are made, and a file is opened among those that the outputs before have left; if it
cannot be opened, its output has no sink. -/
inductive Attached : List Output -> Outlets -> List Sink -> Outlets -> Prop where
  | nothing (outlets : Outlets) : Attached [] outlets [] outlets
  | standardError {outputs : List Output} {outlets after : Outlets} {sinks : List Sink}
      (rest : Attached outputs outlets sinks after) :
      Attached (.standardError :: outputs) outlets (.standardError :: sinks) after
  | events {outputs : List Output} {outlets after : Outlets} {sinks : List Sink}
      (rest : Attached outputs outlets sinks after) :
      Attached (.events :: outputs) outlets (.events :: sinks) after
  | ring {capacity : Nat} {outputs : List Output} {outlets after : Outlets}
      {sinks : List Sink}
      (rest : Attached outputs { outlets with rings := outlets.rings ++ [{ capacity }] }
        sinks after) :
      Attached (.ring capacity :: outputs) outlets (.ring outlets.rings.length :: sinks) after
  | file {path : String} {place : Place} {files : Files} {outputs : List Output}
      {outlets after : Outlets} {sinks : List Sink}
      (opened : outlets.files.openForAppending (Path.ofString path) = .ok (place, files))
      (rest : Attached outputs { outlets with files } sinks after) :
      Attached (.file path :: outputs) outlets (.file place :: sinks) after
  | noFile {path : String} {error : FileError} {outputs : List Output}
      {outlets after : Outlets} {sinks : List Sink}
      (failed : outlets.files.openForAppending (Path.ofString path) = .error error)
      (rest : Attached outputs outlets sinks after) :
      Attached (.file path :: outputs) outlets sinks after

namespace Attached

variable {outputs : List Output} {outlets after : Outlets} {sinks : List Sink}

/-- Nothing but rings is made by outputs for rings, and each makes one. -/
theorem rings_eq (h : Attached outputs outlets sinks after) :
    after.rings = outlets.rings ++ (outputs.filterMap Output.capacity?).map Ring.empty := by
  induction h with
  | nothing outlets => exact (List.append_nil _).symm
  | standardError rest ih => exact ih
  | events rest ih => exact ih
  | ring rest ih => exact ih.trans (List.append_assoc ..)
  | file opened rest ih => exact ih
  | noFile failed rest ih => exact ih

/-- The sinks for rings lead to the rings that are made, in this order. -/
theorem numbers_eq (h : Attached outputs outlets sinks after) :
    sinks.filterMap Sink.ring? =
      List.range' outlets.rings.length (outputs.filterMap Output.capacity?).length := by
  induction h with
  | nothing outlets => rfl
  | standardError rest ih => exact ih
  | events rest ih => exact ih
  | ring rest ih =>
      rw [List.length_append] at ih
      exact congrArg (_ :: ·) ih
  | file opened rest ih => exact ih
  | noFile failed rest ih => exact ih

theorem logger_notMem (h : Attached outputs outlets sinks after) (earlier : Nat) :
    Sink.logger earlier ∉ sinks := by
  induction h with
  | nothing outlets => exact List.not_mem_nil
  | standardError rest ih => simpa using ih
  | events rest ih => simpa using ih
  | ring rest ih => simpa using ih
  | file opened rest ih => simpa using ih
  | noFile failed rest ih => exact ih

end Attached

/-!
# The new logger
-/

theorem modify_concat {α : Type} (l : List α) (last : α) (f : α -> α) :
    (l ++ [last]).modify l.length f = l ++ [f last] := by
  induction l with
  | nil => rfl
  | cons a rest ih => exact congrArg (a :: ·) ih

def Logger.attachAll (logger : Logger) (sinks : List Sink) : Logger :=
  { logger with sinks := logger.sinks ++ sinks }

theorem Logger.attachAll_nil (logger : Logger) : logger.attachAll [] = logger := by
  unfold attachAll
  rw [List.append_nil]

theorem Logger.attachAll_attach (logger : Logger) (sink : Sink) (sinks : List Sink) :
    (logger.attach sink).attachAll sinks = logger.attachAll (sink :: sinks) := by
  unfold attachAll attach
  rw [List.append_assoc]
  rfl

namespace Logging

def withLogger (logging : Logging) (logger : Logger) (outlets : Outlets) : Logging :=
  { logging with loggers := logging.loggers ++ [logger], outlets }

theorem attach_withLogger (logging : Logging) (logger : Logger) (outlets : Outlets)
    (sink : Sink) :
    (logging.withLogger logger outlets).attach logging.loggers.length sink =
      logging.withLogger (logger.attach sink) outlets := by
  unfold attach update withLogger
  rw [modify_concat]

end Logging

namespace Config

theorem install_of_fits {capacity : Nat} (h : Ring.Fits capacity) (index : Nat)
    (ring? : Option Nat) (logging : Logging) :
    install index ring? (.ring capacity) logging =
      (.ok (some logging.outlets.rings.length),
        (logging.withRing { capacity }).attach index
          (.ring logging.outlets.rings.length)) := by
  unfold install Logging.addRing
  simp only [Ring.make_of_fits h]
  rfl

section

variable (logging : Logging) (ring? : Option Nat) (logger : Logger) (outlets : Outlets)

theorem install_standardError :
    install logging.loggers.length ring? .standardError (logging.withLogger logger outlets) =
      (.ok ring?, logging.withLogger (logger.attach .standardError) outlets) :=
  congrArg (Prod.mk (Except.ok ring?))
    (logging.attach_withLogger logger outlets .standardError)

theorem install_events :
    install logging.loggers.length ring? .events (logging.withLogger logger outlets) =
      (.ok ring?, logging.withLogger (logger.attach .events) outlets) :=
  congrArg (Prod.mk (Except.ok ring?)) (logging.attach_withLogger logger outlets .events)

theorem install_ring {capacity : Nat} (h : Ring.Fits capacity) :
    install logging.loggers.length ring? (.ring capacity)
        (logging.withLogger logger outlets) =
      (.ok (some outlets.rings.length),
        logging.withLogger (logger.attach (.ring outlets.rings.length))
          { outlets with rings := outlets.rings ++ [{ capacity }] }) := by
  rw [install_of_fits h]
  exact congrArg (Prod.mk (Except.ok (some outlets.rings.length)))
    (logging.attach_withLogger logger
      { outlets with rings := outlets.rings ++ [{ capacity }] } (.ring outlets.rings.length))

variable {path : String}

theorem install_file {place : Place} {files : Files}
    (hopened : outlets.files.openForAppending (Path.ofString path) = .ok (place, files)) :
    install logging.loggers.length ring? (.file path) (logging.withLogger logger outlets) =
      (.ok ring?,
        logging.withLogger (logger.attach (.file place)) { outlets with files }) := by
  have hfiles : (logging.withLogger logger outlets).outlets.files = outlets.files := rfl
  unfold install Logging.attachFile
  simp only [hfiles, hopened]
  exact congrArg (Prod.mk (Except.ok ring?))
    (logging.attach_withLogger logger { outlets with files } (.file place))

theorem install_file_of_error {error : FileError}
    (hfailed : outlets.files.openForAppending (Path.ofString path) = .error error) :
    install logging.loggers.length ring? (.file path) (logging.withLogger logger outlets) =
      (.ok ring?, logging.withLogger logger outlets) := by
  have hfiles : (logging.withLogger logger outlets).outlets.files = outlets.files := rfl
  unfold install Logging.attachFile
  simp only [hfiles, hfailed]

end

theorem install_of_not_fits {capacity : Nat} (h : ¬ Ring.Fits capacity) (index : Nat)
    (ring? : Option Nat) (logging : Logging) :
    install index ring? (.ring capacity) logging = (.error Ring.overflow, logging) := by
  unfold install Logging.addRing
  simp only [Ring.make_of_not_fits h]
  rfl

theorem installAll_of_ok {index : Nat} {ring? ring'? : Option Nat} {output : Output}
    {logging logging' : Logging}
    (h : install index ring? output logging = (.ok ring'?, logging')) (rest : List Output) :
    installAll index ring? (output :: rest) logging =
      installAll index ring'? rest logging' := by
  rw [installAll, h]

theorem installAll_of_error {index : Nat} {ring? : Option Nat} {output : Output}
    {panic : Panic} {logging logging' : Logging}
    (h : install index ring? output logging = (.error panic, logging')) (rest : List Output) :
    installAll index ring? (output :: rest) logging = (.error panic, logging') := by
  rw [installAll, h]

theorem getLast?_or_some {α : Type} (l : List α) (a : α) (b? : Option α) :
    l.getLast?.or (some a) = (a :: l).getLast?.or b? := by
  rw [List.getLast?_cons]
  cases l.getLast? with
  | none => rfl
  | some last => rfl

/-- The sinks are attached to the new logger one after the other, and the ring of the last
one of them is reported. -/
theorem installAll_of_fits (logging : Logging) {outputs : List Output}
    (hfits : forall capacity, Output.ring capacity ∈ outputs -> Ring.Fits capacity)
    (ring? : Option Nat) (logger : Logger) (outlets : Outlets) :
    exists sinks after, Attached outputs outlets sinks after ∧
      installAll logging.loggers.length ring? outputs (logging.withLogger logger outlets) =
        (.ok ((sinks.filterMap Sink.ring?).getLast?.or ring?),
          logging.withLogger (logger.attachAll sinks) after) := by
  induction outputs generalizing ring? logger outlets with
  | nil =>
      refine ⟨[], outlets, .nothing outlets, ?_⟩
      rw [Logger.attachAll_nil]
      rfl
  | cons output rest ih =>
      have ih := ih fun capacity hmem => hfits capacity (List.mem_cons_of_mem output hmem)
      cases output with
      | standardError =>
          rcases ih ring? (logger.attach .standardError) outlets
            with ⟨sinks, after, hattached, hrest⟩
          refine ⟨_, after, .standardError hattached, ?_⟩
          rw [installAll_of_ok (install_standardError ..), hrest, Logger.attachAll_attach]
          rfl
      | events =>
          rcases ih ring? (logger.attach .events) outlets
            with ⟨sinks, after, hattached, hrest⟩
          refine ⟨_, after, .events hattached, ?_⟩
          rw [installAll_of_ok (install_events ..), hrest, Logger.attachAll_attach]
          rfl
      | ring capacity =>
          rcases ih (some outlets.rings.length)
            (logger.attach (.ring outlets.rings.length)) _
            with ⟨sinks, after, hattached, hrest⟩
          refine ⟨_, after, .ring hattached, ?_⟩
          rw [installAll_of_ok (install_ring _ _ _ _ (hfits capacity List.mem_cons_self)),
            hrest, Logger.attachAll_attach, getLast?_or_some]
          rfl
      | file path =>
          cases hopened : outlets.files.openForAppending (Path.ofString path) with
          | ok found =>
              rcases found with ⟨place, files⟩
              rcases ih ring? (logger.attach (.file place)) { outlets with files }
                with ⟨sinks, after, hattached, hrest⟩
              refine ⟨_, after, .file hopened hattached, ?_⟩
              rw [installAll_of_ok (install_file _ _ _ _ hopened), hrest,
                Logger.attachAll_attach]
              rfl
          | error error =>
              rcases ih ring? logger outlets with ⟨sinks, after, hattached, hrest⟩
              refine ⟨_, after, .noFile hopened hattached, ?_⟩
              rw [installAll_of_ok (install_file_of_error _ _ _ _ hopened), hrest]

/-- One ring without room is enough, whatever the outputs before it do. -/
theorem installAll_of_not_fits {outputs : List Output} {capacity : Nat}
    (hmem : .ring capacity ∈ outputs) (hfits : ¬ Ring.Fits capacity) (index : Nat)
    (ring? : Option Nat) (logging : Logging) :
    (installAll index ring? outputs logging).1 = .error Ring.overflow := by
  induction outputs generalizing ring? logging with
  | nil => cases hmem
  | cons output rest ih =>
      have hnext {ring'? : Option Nat} {logging' : Logging} (hother : output ≠ .ring capacity)
          (h : install index ring? output logging = (.ok ring'?, logging')) :
          (installAll index ring? (output :: rest) logging).1 = .error Ring.overflow := by
        rw [installAll_of_ok h]
        exact ih (List.mem_of_ne_of_mem hother.symm hmem) ring'? logging'
      cases output with
      | standardError => exact hnext nofun rfl
      | events => exact hnext nofun rfl
      | file path => exact hnext nofun rfl
      | ring other =>
          by_cases hother : Ring.Fits other
          · refine hnext ?_ (install_of_fits hother index ring? logging)
            intro hsame
            cases hsame
            exact hfits hother
          · rw [installAll_of_error (install_of_not_fits hother index ring? logging)]

theorem init_of_fits {config : Config}
    (hfits : forall capacity, Output.ring capacity ∈ config.outputs -> Ring.Fits capacity)
    (logging : Logging) :
    exists sinks outlets, Attached config.outputs logging.outlets sinks outlets ∧
      config.init logging =
        (.ok (logging.loggers.length, (sinks.filterMap Sink.ring?).getLast?),
          logging.withLogger { level := config.level, sinks } outlets) := by
  rcases installAll_of_fits logging hfits none { level := config.level } logging.outlets
    with ⟨sinks, outlets, hattached, hinstalled⟩
  refine ⟨sinks, outlets, hattached, ?_⟩
  rw [Option.or_none] at hinstalled
  unfold init Logging.add
  simp only
  rw [show { logging with loggers := logging.loggers ++ [{ level := config.level }] } =
    logging.withLogger { level := config.level } logging.outlets from rfl, hinstalled]
  rfl

theorem init_eq_error_iff {config : Config} {logging : Logging} :
    (config.init logging).1 = .error Ring.overflow <->
      exists capacity, Output.ring capacity ∈ config.outputs ∧ ¬ Ring.Fits capacity := by
  constructor
  · intro h
    by_contra hnone
    have hfits : forall capacity, Output.ring capacity ∈ config.outputs ->
        Ring.Fits capacity := by
      intro capacity hmem
      by_contra hlarge
      exact hnone ⟨capacity, hmem, hlarge⟩
    rcases init_of_fits hfits logging with ⟨sinks, outlets, -, hinit⟩
    rw [hinit] at h
    cases h
  · intro ⟨capacity, hmem, hfits⟩
    have hinstalled := installAll_of_not_fits hmem hfits logging.loggers.length none
      (logging.add config.level).2
    unfold init
    simp only
    rw [show (logging.add config.level).1 = logging.loggers.length from rfl, hinstalled]
    rfl

end Config

/-!
# What is logged
-/

structure LogCall where
  time : UInt64
  level : Level
  target : String
  message : String
  deriving DecidableEq, Repr

def LogCall.record (call : LogCall) : Record :=
  ⟨call.time, call.level, call.target, none, call.message⟩

def recordsFrom (minimum : Level) (calls : List LogCall) : List Record :=
  (calls.filter fun call => minimum.rank ≤ call.level.rank).map LogCall.record

theorem recordsFrom_cons (minimum : Level) (call : LogCall) (calls : List LogCall) :
    recordsFrom minimum (call :: calls) =
      recordsFrom minimum [call] ++ recordsFrom minimum calls := by
  unfold recordsFrom
  rw [← List.map_append, ← List.filter_append, List.singleton_append]

section

variable {minimum : Level} {call : LogCall}

theorem recordsFrom_of_le (h : minimum.rank ≤ call.level.rank) :
    recordsFrom minimum [call] = [call.record] := by
  simp [recordsFrom, h]

theorem recordsFrom_of_not_le (h : ¬ minimum.rank ≤ call.level.rank) :
    recordsFrom minimum [call] = [] := by
  simp [recordsFrom, h]

end

namespace Logging

def call (index : Nat) (logging : Logging) (call : LogCall) : Logging :=
  { logging with now := call.time }.log index call.level call.target call.message

end Logging

theorem rings_publish (outlets : Outlets) (event : Event) :
    (outlets.publish event).rings = outlets.rings := by
  unfold Outlets.publish
  split
  · rfl
  · rfl
  · split
    · rfl
    · rfl

theorem getElem?_rings_receive (outlets : Outlets) (sink : Sink) (record : Record)
    (number : Nat) :
    (outlets.receive ⟨sink, record⟩).rings[number]? =
      if sink = .ring number then outlets.rings[number]?.map (·.push record)
      else outlets.rings[number]? := by
  cases sink with
  | ring index =>
      unfold Outlets.receive
      simp only [List.getElem?_modify, Sink.ring.injEq]
      split
      · rfl
      · exact id_map _
  | events => exact congrArg (·[number]?) (rings_publish outlets _)
  | _ => rfl

/-- A record that goes to many sinks is written to a ring as often as this is among them. -/
theorem getElem?_rings_foldl_receive (sinks : List Sink) (record : Record) (number : Nat)
    (outlets : Outlets) :
    ((sinks.map (Delivery.mk · record)).foldl Outlets.receive outlets).rings[number]? =
      outlets.rings[number]?.map (Ring.push · record)^[sinks.count (.ring number)] := by
  induction sinks generalizing outlets with
  | nil => exact (id_map _).symm
  | cons sink rest ih =>
      rw [List.map_cons, List.foldl_cons, ih, getElem?_rings_receive, List.count_cons]
      by_cases hsink : sink = .ring number
      · rw [if_pos hsink, if_pos (beq_iff_eq.mpr hsink), Option.map_map,
          Function.iterate_succ]
      · rw [if_neg hsink, if_neg (fun h => hsink (beq_iff_eq.mp h)), Nat.add_zero]

/-- The logger sends its records to a ring once and to no other logger, and the ring holds
the last of some records. -/
structure Feeds (index number : Nat) (minimum : Level) (capacity : Nat)
    (written : List Record) (logging : Logging) : Prop where
  logger : exists sinks, logging.loggers[index]? = some { level := minimum, sinks } ∧
    sinks.count (.ring number) = 1 ∧ forall earlier, Sink.logger earlier ∉ sinks
  ring : exists ring, logging.outlets.rings[number]? = some ring ∧
    ring.Retains capacity written

namespace Feeds

variable {index number capacity : Nat} {minimum : Level} {written : List Record}
variable {logging : Logging}

theorem call (h : Feeds index number minimum capacity written logging) (call : LogCall) :
    Feeds index number minimum capacity (written ++ recordsFrom minimum [call])
      (logging.call index call) := by
  rcases h.logger with ⟨sinks, hfound, hcount, hdirect⟩
  rcases h.ring with ⟨ring, hring, hretains⟩
  have hdeliveries := deliveries_of_direct hfound hdirect call.time call.level call.target
    call.message
  unfold Logging.call
  rw [Logging.log_eq_foldl]
  refine ⟨⟨sinks, hfound, hcount, hdirect⟩, ?_⟩
  unfold Logging.deliveries
  simp only [hdeliveries]
  by_cases hlevel : minimum.rank ≤ call.level.rank
  · rw [if_pos (isEnabled_iff.mpr hlevel), getElem?_rings_foldl_receive, hcount, hring,
      recordsFrom_of_le hlevel]
    exact ⟨_, rfl, hretains.push call.record⟩
  · rw [if_neg (mt isEnabled_iff.mp hlevel), recordsFrom_of_not_le hlevel, List.append_nil]
    exact ⟨ring, hring, hretains⟩

theorem foldl (h : Feeds index number minimum capacity written logging)
    (calls : List LogCall) :
    Feeds index number minimum capacity (written ++ recordsFrom minimum calls)
      (calls.foldl (Logging.call index) logging) := by
  induction calls generalizing written logging with
  | nil =>
      have hnone : written ++ recordsFrom minimum [] = written := List.append_nil _
      rw [hnone]
      exact h
  | cons call rest ih =>
      rw [recordsFrom_cons, ← List.append_assoc]
      exact ih (h.call call)

end Feeds

theorem count_ring (sinks : List Sink) (number : Nat) :
    sinks.count (.ring number) = (sinks.filterMap Sink.ring?).count number := by
  rw [List.count_filterMap, List.count]
  apply List.countP_congr
  intro sink _
  cases sink with
  | ring index => simp [Sink.ring?]
  | _ => simp [Sink.ring?]

theorem Attached.feeds {outputs before after : List Output} {outlets outlets' : Outlets}
    {sinks : List Sink} {capacity : Nat} (h : Attached outputs outlets sinks outlets')
    (hsplit : outputs = before ++ .ring capacity :: after) (logging : Logging)
    (minimum : Level) :
    Feeds logging.loggers.length
      (outlets.rings.length + (before.filterMap Output.capacity?).length) minimum capacity []
      (logging.withLogger { level := minimum, sinks } outlets') := by
  have hcapacities : outputs.filterMap Output.capacity? =
      before.filterMap Output.capacity? ++
        capacity :: after.filterMap Output.capacity? := by
    rw [hsplit, List.filterMap_append]
    rfl
  constructor
  · refine ⟨sinks, List.getElem?_concat_length, ?_, h.logger_notMem⟩
    rw [count_ring, h.numbers_eq]
    apply List.count_eq_one_of_mem (List.nodup_range' 1)
    rw [hcapacities, List.mem_range'_1, List.length_append, List.length_cons]
    omega
  · refine ⟨.empty capacity, ?_, Ring.retains_empty capacity⟩
    unfold Logging.withLogger
    rw [h.rings_eq, hcapacities, List.getElem?_append_right (Nat.le_add_right ..),
      Nat.add_sub_cancel_left, List.map_append,
      List.getElem?_append_right (Nat.le_of_eq (List.length_map _)), List.length_map,
      Nat.sub_self]
    rfl

/-!
# The ring that is reported
-/

theorem filterMap_capacity?_eq_nil {outputs : List Output}
    (h : forall capacity, Output.ring capacity ∉ outputs) :
    outputs.filterMap Output.capacity? = [] := by
  apply List.filterMap_eq_nil_iff.mpr
  intro output hmem
  cases output with
  | ring capacity => exact absurd hmem (h capacity)
  | _ => rfl

theorem exists_last_ring (outputs : List Output) :
    (forall capacity, Output.ring capacity ∉ outputs) ∨
      exists before capacity after, outputs = before ++ .ring capacity :: after ∧
        forall later, Output.ring later ∉ after := by
  induction outputs with
  | nil => exact .inl fun capacity => List.not_mem_nil
  | cons output rest ih =>
      rcases ih with hnone | ⟨before, capacity, after, hsplit, hlast⟩
      · cases output with
        | ring capacity => exact .inr ⟨[], capacity, rest, rfl, hnone⟩
        | _ => exact .inl (by simpa using hnone)
      · exact .inr ⟨output :: before, capacity, after, congrArg (output :: ·) hsplit, hlast⟩

/-- What is reported is the ring that was made for the last output that asks for one, and
nothing if there is no such output.  The ring holds the last of what was written.  Rings are
numbered from `first` on. -/
inductive ReportsLastRing (outputs : List Output) (first : Nat) (written : List Record)
    (rings : List Ring) : Option Nat -> Prop where
  | nothing (noRing : forall capacity, Output.ring capacity ∉ outputs) :
      ReportsLastRing outputs first written rings none
  | ring {before after : List Output} {capacity : Nat} {ring : Ring}
      (split : outputs = before ++ .ring capacity :: after)
      (last : forall later, Output.ring later ∉ after)
      (found : rings[first + (before.filterMap Output.capacity?).length]? = some ring)
      (holds : ring.HoldsLast capacity written) :
      ReportsLastRing outputs first written rings
        (some (first + (before.filterMap Output.capacity?).length))

theorem Attached.reportsLastRing {outputs : List Output} {outlets after : Outlets}
    {sinks : List Sink} (h : Attached outputs outlets sinks after) (logging : Logging)
    (minimum : Level) (calls : List LogCall) :
    ReportsLastRing outputs outlets.rings.length (recordsFrom minimum calls)
      (calls.foldl (Logging.call logging.loggers.length)
        (logging.withLogger { level := minimum, sinks } after)).outlets.rings
      (sinks.filterMap Sink.ring?).getLast? := by
  rw [h.numbers_eq, List.getLast?_range']
  rcases exists_last_ring outputs with hnone | ⟨before, capacity, later, hsplit, hlast⟩
  · rw [filterMap_capacity?_eq_nil hnone]
    exact .nothing hnone
  · have hlength : (outputs.filterMap Output.capacity?).length =
        (before.filterMap Output.capacity?).length + 1 := by
      rw [hsplit, List.filterMap_append, List.length_append, List.filterMap_cons]
      simp only [Output.capacity?, filterMap_capacity?_eq_nil hlast, List.length_singleton]
    rw [hlength, if_neg (Nat.succ_ne_zero _), ← Nat.add_assoc, Nat.add_sub_cancel]
    rcases ((h.feeds hsplit logging minimum).foldl calls).ring with ⟨ring, hfound, hretains⟩
    exact .ring hsplit hlast hfound hretains.holdsLast

/-- Whatever a configuration is built of, it has the outputs that were asked for and the
last level that could be read.  It has a logger just if all of its rings fit into memory.
Its outputs are then the sinks of the logger, without the files that cannot be opened, and
the ring that is reported holds the last of what is logged. -/
theorem build_init_reportsLastRing (preset : Preset) (steps : List BuildStep)
    (logging : Logging) :
    preset.config.IsBuilt steps (preset.config.build steps) ∧
    (forall text level, Level.parse? text = some level <->
      inSmallLetters text ∈ level.words) ∧
    (((preset.config.build steps).init logging).1 = .error Ring.overflow <->
      exists capacity, Output.ring capacity ∈ (preset.config.build steps).outputs ∧
        ¬ Ring.Fits capacity) ∧
    ((forall capacity, Output.ring capacity ∈ (preset.config.build steps).outputs ->
        Ring.Fits capacity) ->
      exists sinks outlets ring?,
        Attached (preset.config.build steps).outputs logging.outlets sinks outlets ∧
        (preset.config.build steps).init logging =
          (.ok (logging.loggers.length, ring?),
            logging.withLogger { level := (preset.config.build steps).level, sinks }
              outlets) ∧
        forall calls,
          ReportsLastRing (preset.config.build steps).outputs logging.outlets.rings.length
            (recordsFrom (preset.config.build steps).level calls)
            (calls.foldl (Logging.call logging.loggers.length)
              ((preset.config.build steps).init logging).2).outlets.rings ring?) := by
  refine ⟨preset.isBuilt steps, fun text level => Level.parse?_eq_some_iff,
    Config.init_eq_error_iff, ?_⟩
  intro hfits
  rcases Config.init_of_fits hfits logging with ⟨sinks, outlets, hattached, hinit⟩
  refine ⟨sinks, outlets, _, hattached, hinit, ?_⟩
  intro calls
  rw [hinit]
  exact hattached.reportsLastRing logging _ calls

/-- A small ring, a file in a directory that does not exist, and a level. -/
def smallRing : List BuildStep :=
  [.ring 2, .file "gone/a.log",
    .overrides fun key => if key = levelKey then some "Info" else none]

/-- The rings fit, the file is left out, and the small ring is the one that is reported. -/
theorem build_init_reportsLastRing_smallRing :
    (forall capacity,
      Output.ring capacity ∈ (Preset.development.config.build smallRing).outputs ->
        Ring.Fits capacity) ∧
    exists outlets,
      Attached (Preset.development.config.build smallRing).outputs {}
        [.standardError, .ring 0, .ring 1] outlets ∧
      forall calls,
        ReportsLastRing (Preset.development.config.build smallRing).outputs 0
          (recordsFrom .info calls)
          (calls.foldl (Logging.call 0)
            ((Preset.development.config.build smallRing).init {}).2).outlets.rings
          (some 1) := by
  have houtputs : (Preset.development.config.build smallRing).outputs =
      [.standardError, .ring 10000, .ring 2, .file "gone/a.log"] := by decide +kernel
  have hlevel : (Preset.development.config.build smallRing).level = .info := by decide +kernel
  have hfits : forall capacity,
      Output.ring capacity ∈ (Preset.development.config.build smallRing).outputs ->
        Ring.Fits capacity := by
    intro capacity hmem
    rw [houtputs] at hmem
    have hcapacity : capacity = 10000 ∨ capacity = 2 := by simpa using hmem
    rcases hcapacity with h | h
    · rw [h]
      decide
    · rw [h]
      decide
  refine ⟨hfits, ?_⟩
  rcases build_init_reportsLastRing .development smallRing {} with ⟨-, -, -, hinstalled⟩
  rcases hinstalled hfits with ⟨sinks, outlets, ring?, hattached, hinit, hreports⟩
  have hring : ((Preset.development.config.build smallRing).init {}).1 = .ok (0, some 1) := by
    decide +kernel
  have hsinks : ((Preset.development.config.build smallRing).init {}).2.loggers.map
      (·.sinks) = [[.standardError, .ring 0, .ring 1]] := by decide +kernel
  rw [hinit] at hring hsinks
  cases hring
  cases hsinks
  rw [hlevel] at hreports
  exact ⟨outlets, hattached, hreports⟩

/-- A ring that is too large for memory breaks off the making of the logger, so that there is
none, although an output asks for a ring. -/
theorem init_breaks_off_overflowing :
    let config := Preset.standard.config.build [.ring 18446744073709551615]
    .ring 18446744073709551615 ∈ config.outputs ∧
      ¬ exists index ring?, (config.init {}).1 = .ok (index, ring?) := by
  have hinit : ((Preset.standard.config.build [.ring 18446744073709551615]).init {}).1 =
      .error Ring.overflow := by decide +kernel
  refine ⟨by decide, ?_⟩
  intro ⟨index, ring?, hmade⟩
  rw [hinit] at hmade
  cases hmade

end Log
end CompileOnLoad
