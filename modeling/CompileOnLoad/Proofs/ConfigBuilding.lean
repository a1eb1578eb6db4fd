import CompileOnLoad.Log.Config
import Mathlib.Data.List.Basic
import Mathlib.Data.List.Induction
import Mathlib.Data.List.Nodup

/-!
# Building a configuration

A configuration is built from a preset, one addition or override after the other.  Its
outputs are those of the preset and then what was asked for, in this order; only what can be
there once is left out if it was there or had been asked for.  Its level is the last one that
an override could read.
-/

namespace CompileOnLoad
namespace Log

/-!
# Levels in words
-/

def Level.words : Level -> List String
  | trace => ["trace"]
  | debug => ["debug"]
  | info => ["info"]
  | warn => ["warn", "warning"]
  | error => ["error", "silent"]

def inSmallLetters (text : String) : String :=
  String.ofList (text.toList.map Char.toLower)

theorem Level.parse?_eq_some_iff {text : String} {level : Level} :
    parse? text = some level <-> inSmallLetters text ∈ level.words := by
  unfold parse? inSmallLetters
  generalize String.ofList (text.toList.map Char.toLower) = word
  cases level <;> grind [words]

/-!
# Building
-/

inductive Preset where
  | bare (level : Level)
  | standard
  | development
  | embedded
  | quiet
  deriving DecidableEq, Repr

def Preset.config : Preset -> Config
  | bare level => { level }
  | standard => .standard
  | development => .development
  | embedded => .embedded
  | quiet => .quiet

def Output.isSingle : Output -> Bool
  | standardError => true
  | events => true
  | file _ => false
  | ring _ => false

inductive BuildStep where
  | standardError
  | events
  | file (path : String)
  | ring (capacity : Nat)
  | overrides (lookup : String -> Option String)

namespace BuildStep

def apply (config : Config) : BuildStep -> Config
  | standardError => config.withStandardError
  | events => config.withEvents
  | file path => config.withFile path
  | ring capacity => config.withRing capacity
  | overrides lookup => config.withOverrides lookup

/-- The output that is asked for; an override asks for a file if it has a name for it that
is not empty. -/
def request? : BuildStep -> Option Output
  | standardError => some .standardError
  | events => some .events
  | file path => some (.file path)
  | ring capacity => some (.ring capacity)
  | overrides lookup => ((lookup fileKey).filter (· ≠ "")).map .file

def level? : BuildStep -> Option Level
  | overrides lookup => (lookup levelKey).bind Level.parse?
  | _ => none

end BuildStep

namespace Config

def build (config : Config) (steps : List BuildStep) : Config :=
  steps.foldl BuildStep.apply config

theorem build_concat (config : Config) (steps : List BuildStep) (step : BuildStep) :
    config.build (steps ++ [step]) = step.apply (config.build steps) := by
  unfold build
  rw [List.foldl_append]
  rfl

end Config

/-!
# What requests add
-/

def isMissing (present : List Output) (output : Output) : Bool :=
  !output.isSingle || !present.contains output

theorem not_mem_of_isMissing {present : List Output} {output : Output}
    (hsingle : output.isSingle = true) (hmissing : isMissing present output = true) :
    output ∉ present := by
  unfold isMissing at hmissing
  rw [hsingle, Bool.not_true, Bool.false_or, Bool.not_eq_true'] at hmissing
  rw [← List.contains_iff_mem, hmissing]
  exact Bool.false_ne_true

theorem mem_of_not_isMissing {present : List Output} {output : Output}
    (hpresent : isMissing present output = false) : output ∈ present := by
  unfold isMissing at hpresent
  rw [Bool.or_eq_false_iff, Bool.not_eq_false', Bool.not_eq_false'] at hpresent
  exact List.contains_iff_mem.mp hpresent.2

/-- The outputs that requests add to initial ones: an output that can be there once must not
be among the initial ones, nor among the requests before. -/
def entries (initial requests : List Output) : List Output :=
  (requests.zipIdx.filter fun (request, number) =>
    isMissing (initial ++ requests.take number) request).map Prod.fst

variable {initial requests : List Output} {output : Output}

/-- A later request makes no difference to what the requests before it add. -/
theorem entries_concat (initial requests : List Output) (output : Output) :
    entries initial (requests ++ [output]) =
      entries initial requests ++ [output].filter (isMissing (initial ++ requests)) := by
  have hbefore : (requests.zipIdx.filter fun (request, number) =>
      isMissing (initial ++ (requests ++ [output]).take number) request) =
      requests.zipIdx.filter fun (request, number) =>
        isMissing (initial ++ requests.take number) request := by
    apply List.filter_congr
    intro numbered hmem
    have hnumber : numbered.2 < requests.length := List.snd_lt_of_mem_zipIdx hmem
    simp only [List.take_append_of_le_length (Nat.le_of_lt hnumber)]
  unfold entries
  rw [List.zipIdx_append, List.filter_append, List.map_append, hbefore]
  cases hmissing : isMissing (initial ++ requests) output with
  | true => simp [hmissing]
  | false => simp [hmissing]

theorem entries_concat_of_missing (h : isMissing (initial ++ requests) output = true) :
    entries initial (requests ++ [output]) = entries initial requests ++ [output] := by
  rw [entries_concat, List.filter_cons_of_pos h, List.filter_nil]

theorem entries_concat_of_present (h : isMissing (initial ++ requests) output = false) :
    entries initial (requests ++ [output]) = entries initial requests := by
  rw [entries_concat, List.filter_cons_of_neg (Bool.eq_false_iff.mp h), List.filter_nil,
    List.append_nil]

theorem mem_entries_iff :
    output ∈ initial ++ entries initial requests <-> output ∈ initial ++ requests := by
  induction requests using List.reverseRecOn with
  | nil => rfl
  | append_singleton requests last ih =>
      cases hmissing : isMissing (initial ++ requests) last with
      | true =>
          rw [entries_concat_of_missing hmissing, ← List.append_assoc, ← List.append_assoc,
            List.mem_append, ih, ← List.mem_append]
      | false =>
          have hpresent := mem_of_not_isMissing hmissing
          rw [entries_concat_of_present hmissing, ih, ← List.append_assoc,
            List.mem_append (t := [last]), List.mem_singleton]
          constructor
          · exact .inl
          · intro h
            rcases h with h | h
            · exact h
            · rw [h]
              exact hpresent

/-- A single output is there at most once, if it is so at the beginning. -/
theorem count_entries_le (hsingle : output.isSingle = true)
    (hinitial : initial.count output ≤ 1) :
    (initial ++ entries initial requests).count output ≤ 1 := by
  induction requests using List.reverseRecOn with
  | nil =>
      have hnone : initial ++ entries initial [] = initial := List.append_nil _
      rw [hnone]
      exact hinitial
  | append_singleton requests last ih =>
      cases hmissing : isMissing (initial ++ requests) last with
      | true =>
          rw [entries_concat_of_missing hmissing, ← List.append_assoc, List.count_append]
          by_cases hlast : last = output
          · have habsent : output ∉ initial ++ entries initial requests := by
              rw [mem_entries_iff]
              exact not_mem_of_isMissing hsingle (hlast ▸ hmissing)
            rw [List.count_eq_zero_of_not_mem habsent, Nat.zero_add]
            exact List.count_le_length
          · rw [List.count_singleton, if_neg (by simpa using hlast)]
            exact ih
      | false =>
          rw [entries_concat_of_present hmissing]
          exact ih

/-!
# Single steps
-/

theorem addOnce_eq {output : Output} (hsingle : output.isSingle = true) (config : Config) :
    config.addOnce output =
      ⟨config.level, config.outputs ++ [output].filter (isMissing config.outputs)⟩ := by
  unfold Config.addOnce Config.addOutput
  cases hpresent : config.outputs.contains output with
  | true => simp [isMissing, hsingle, List.contains_iff_mem.mp hpresent]
  | false =>
      have habsent : output ∉ config.outputs := by
        rw [← List.contains_iff_mem, hpresent]
        exact Bool.false_ne_true
      simp [isMissing, hsingle, habsent]

theorem withOverrides_eq (config : Config) (lookup : String -> Option String) :
    config.withOverrides lookup =
      ⟨((lookup levelKey).bind Level.parse?).getD config.level,
        config.outputs ++ (((lookup fileKey).filter (· ≠ "")).map Output.file).toList⟩ := by
  unfold Config.withOverrides
  rcases (lookup levelKey).bind Level.parse? with _ | level
  all_goals
    rcases lookup fileKey with _ | path
    · simp
    · by_cases hpath : path = ""
      · simp [hpath, Option.filter]
      · simp [hpath, Option.filter, Config.withFile, Config.addOutput]

/-- A step adds what it asks for, unless that can be there once and is there, and sets the
level that it can read. -/
theorem BuildStep.apply_eq (step : BuildStep) (config : Config) :
    step.apply config =
      ⟨step.level?.getD config.level,
        config.outputs ++ step.request?.toList.filter (isMissing config.outputs)⟩ := by
  cases step with
  | standardError => exact addOnce_eq rfl config
  | events => exact addOnce_eq rfl config
  | file path => rfl
  | ring capacity => rfl
  | overrides lookup =>
      have hfilter (path? : Option String) :
          (path?.map Output.file).toList.filter (isMissing config.outputs) =
            (path?.map Output.file).toList := by
        cases path? with
        | none => rfl
        | some path => rfl
      unfold request?
      rw [hfilter]
      exact withOverrides_eq config lookup

/-!
# Runs
-/

theorem filterMap_concat {α β : Type} (f : α -> Option β) (l : List α) (last : α) :
    (l ++ [last]).filterMap f = l.filterMap f ++ (f last).toList := by
  rw [List.filterMap_append]
  cases hlast : f last with
  | none => simp [hlast]
  | some b => simp [hlast]

namespace Config

theorem outputs_build (config : Config) (steps : List BuildStep) :
    (config.build steps).outputs =
      config.outputs ++ entries config.outputs (steps.filterMap BuildStep.request?) := by
  induction steps using List.reverseRecOn with
  | nil => exact (List.append_nil _).symm
  | append_singleton steps last ih =>
      have hpresent : isMissing (config.build steps).outputs =
          isMissing (config.outputs ++ steps.filterMap BuildStep.request?) := by
        funext output
        unfold isMissing
        congr 2
        apply Bool.eq_iff_iff.mpr
        rw [List.contains_iff_mem, List.contains_iff_mem, ih, mem_entries_iff]
      rw [build_concat, BuildStep.apply_eq, filterMap_concat, hpresent, ih]
      simp only
      cases last.request? with
      | none => simp
      | some output => rw [Option.toList_some, entries_concat, List.append_assoc]

theorem level_build (config : Config) (steps : List BuildStep) :
    (config.build steps).level =
      (steps.filterMap BuildStep.level?).getLast?.getD config.level := by
  induction steps using List.reverseRecOn with
  | nil => rfl
  | append_singleton steps last ih =>
      rw [build_concat, BuildStep.apply_eq, filterMap_concat, ih]
      cases last.level? with
      | none => simp
      | some level => simp

/-- What a configuration of some steps is, from the one that they began with. -/
structure IsBuilt (initial : Config) (steps : List BuildStep) (config : Config) : Prop where
  outputs : config.outputs =
    initial.outputs ++ entries initial.outputs (steps.filterMap BuildStep.request?)
  single : forall output, output.isSingle = true -> config.outputs.count output ≤ 1
  level : config.level = (steps.filterMap BuildStep.level?).getLast?.getD initial.level

end Config

theorem Preset.nodup_outputs (preset : Preset) : preset.config.outputs.Nodup := by
  cases preset with
  | bare level => exact List.nodup_nil
  | standard => exact List.nodup_nil
  | development => decide
  | embedded => decide
  | quiet => exact List.nodup_nil

theorem Preset.isBuilt (preset : Preset) (steps : List BuildStep) :
    preset.config.IsBuilt steps (preset.config.build steps) where
  outputs := preset.config.outputs_build steps
  single := by
    intro output hsingle
    rw [Config.outputs_build]
    exact count_entries_le hsingle
      (List.nodup_iff_count_le_one.mp preset.nodup_outputs output)
  level := preset.config.level_build steps

end Log
end CompileOnLoad
