import CompileOnLoad.Proofs.DocumentPolicy
import Mathlib.Data.List.DropRight
import Mathlib.Logic.Relation

/-!
# Spellings of a path

Separators may be repeated, stand around a `.`, or end a path, and the path still has the
same components.  So rules for directories and files cannot be dodged by another spelling.
Nor are they hit by a longer name: text that is added to a path goes to its last component
until the next separator.
-/

namespace CompileOnLoad
namespace Path

/-- The second path is the first with one separator more, alone or with a `.`. -/
inductive Respelled : Path -> Path -> Prop where
  | repeated (before after : List UInt8) :
      Respelled ⟨before ++ slash :: after⟩ ⟨before ++ slash :: slash :: after⟩
  | dotted (before after : List UInt8) :
      Respelled ⟨before ++ slash :: after⟩ ⟨before ++ slash :: dot :: slash :: after⟩
  | ended {bytes : List UInt8} (full : bytes ≠ []) : Respelled ⟨bytes⟩ ⟨bytes ++ [slash]⟩
  | endedDotted {bytes : List UInt8} (full : bytes ≠ []) :
      Respelled ⟨bytes⟩ ⟨bytes ++ [slash, dot]⟩

def lastText (p : Path) : List UInt8 :=
  p.bytes.rtakeWhile (· ≠ slash)

/-!
# Segments
-/

theorem segments_ne_nil (bytes : List UInt8) : segments bytes ≠ [] := by
  cases bytes with
  | nil => exact List.cons_ne_nil _ _
  | cons b rest =>
      unfold segments
      split
      · exact List.cons_ne_nil _ _
      · split
        · exact List.cons_ne_nil _ _
        · exact List.cons_ne_nil _ _

theorem segments_append_slash (before after : List UInt8) :
    segments (before ++ slash :: after) = segments before ++ segments after := by
  induction before with
  | nil => simp [segments]
  | cons b rest ih =>
      rw [List.cons_append, segments, segments, ih]
      by_cases hb : b = slash
      · rw [if_pos hb, if_pos hb, List.cons_append]
      · rw [if_neg hb, if_neg hb]
        rcases List.exists_cons_of_ne_nil (segments_ne_nil rest) with
          ⟨segment, more, hsegments⟩
        rw [hsegments]
        rfl

theorem segments_of_notMem {bytes : List UInt8} (h : slash ∉ bytes) :
    segments bytes = [bytes] := by
  induction bytes with
  | nil => rfl
  | cons b rest ih =>
      rw [List.mem_cons, not_or] at h
      rw [segments, if_neg (Ne.symm h.1), ih h.2]

def parts (bytes : List UInt8) : List Component :=
  (segments bytes).filterMap component?

theorem components_eq (bytes : List UInt8) :
    (Path.mk bytes).components = anchor bytes ++ parts bytes :=
  rfl

theorem parts_append_slash (before after : List UInt8) :
    parts (before ++ slash :: after) = parts before ++ parts after := by
  unfold parts
  rw [segments_append_slash, List.filterMap_append]

theorem parts_slash (after : List UInt8) : parts (slash :: after) = parts after :=
  parts_append_slash [] after

theorem parts_dot_slash (after : List UInt8) : parts (dot :: slash :: after) = parts after :=
  parts_append_slash [dot] after

theorem parts_of_notMem {bytes : List UInt8} (h : slash ∉ bytes) :
    parts bytes = (component? bytes).toList := by
  unfold parts
  rw [segments_of_notMem h]
  cases hcomponent : component? bytes with
  | none => simp [hcomponent]
  | some component => simp [hcomponent]

def IsEnded (start : List UInt8) : Prop :=
  start = [] ∨ exists before, start = before ++ [slash]

theorem IsEnded.parts_append {start : List UInt8} (h : IsEnded start) (rest : List UInt8) :
    parts (start ++ rest) = parts start ++ parts rest := by
  rcases h with hnone | ⟨before, hbefore⟩
  · rw [hnone]
    rfl
  · rw [hbefore, List.append_assoc, List.singleton_append, parts_append_slash,
      parts_append_slash, List.append_assoc]
    rfl

/-!
# The beginning of a path
-/

theorem anchor_append_slash (before after : List UInt8) :
    anchor (before ++ slash :: after) = anchor (before ++ [slash]) := by
  rcases before with _ | ⟨b, _ | ⟨c, rest⟩⟩
  · cases after with
    | nil => rfl
    | cons b more => rfl
  · rfl
  · rfl

theorem anchor_concat_slash {bytes : List UInt8} (h : bytes ≠ []) :
    anchor (bytes ++ [slash]) = anchor bytes := by
  rcases bytes with _ | ⟨b, _ | ⟨c, rest⟩⟩
  · exact absurd rfl h
  · simp [anchor]
  · rfl

theorem anchor_append_of_named {bytes rest : List UInt8} (hbytes : bytes ≠ [])
    (hslash : bytes ≠ [slash]) (hdot : bytes ≠ [dot]) (hrest : rest.head? ≠ some slash) :
    anchor (bytes ++ rest) = anchor bytes := by
  rcases bytes with _ | ⟨b, _ | ⟨c, more⟩⟩
  · exact absurd rfl hbytes
  · have hb : b ≠ slash := fun h => hslash (congrArg (fun b => [b]) h)
    have hb' : b ≠ dot := fun h => hdot (congrArg (fun b => [b]) h)
    cases rest with
    | nil => rfl
    | cons c more => simp [anchor, hb, hb']
  · rfl

/-!
# Respelling
-/

theorem components_append_slash (before after : List UInt8) :
    (Path.mk (before ++ slash :: after)).components =
      anchor (before ++ [slash]) ++ (parts before ++ parts after) := by
  rw [components_eq, anchor_append_slash, parts_append_slash]

/-- The end of a path may have a separator, with nothing after it that is a component. -/
theorem components_append_end {bytes after : List UInt8} (hfull : bytes ≠ [])
    (hnone : parts after = []) :
    (Path.mk (bytes ++ slash :: after)).components = (Path.mk bytes).components := by
  rw [components_append_slash, anchor_concat_slash hfull, hnone, List.append_nil,
    components_eq]

theorem Respelled.components_eq {p q : Path} (h : Respelled p q) :
    p.components = q.components := by
  cases h with
  | repeated before after =>
      rw [components_append_slash before after,
        components_append_slash before (slash :: after), parts_slash]
  | dotted before after =>
      rw [components_append_slash before after,
        components_append_slash before (dot :: slash :: after), parts_dot_slash]
  | ended full => exact (components_append_end full rfl).symm
  | endedDotted full => exact (components_append_end full rfl).symm

theorem components_eq_of_respelled {p q : Path}
    (h : Relation.ReflTransGen Respelled p q) : p.components = q.components := by
  induction h with
  | refl => rfl
  | tail _ hlast ih => exact ih.trans hlast.components_eq

/-!
# Longer names
-/

def Component.segment : Component -> List UInt8
  | root => []
  | here => [dot]
  | up => [dot, dot]
  | name bytes => bytes

theorem segment_of_component? {segment : List UInt8} {component : Component}
    (h : component? segment = some component) : component.segment = segment := by
  unfold component? at h
  split at h
  · cases h
  · split at h
    · next hup =>
        cases h
        exact hup.symm
    · cases h
      rfl

theorem exists_component? {segment : List UInt8} (hfull : segment ≠ [])
    (hdot : segment ≠ [dot]) : exists component, component? segment = some component := by
  unfold component?
  rw [if_neg (not_or.mpr ⟨hfull, hdot⟩)]
  split
  · exact ⟨_, rfl⟩
  · exact ⟨_, rfl⟩

/-- The last text of a path stands at its beginning or after a separator. -/
theorem exists_lastText (p : Path) :
    slash ∉ p.lastText ∧ exists start, IsEnded start ∧ start ++ p.lastText = p.bytes := by
  constructor
  · intro hmem
    simpa using List.mem_rtakeWhile_imp hmem
  · refine ⟨p.bytes.rdropWhile (· ≠ slash), ?_, List.rdropWhile_append_rtakeWhile⟩
    have hlast := List.rdropWhile_last_not (· ≠ slash) p.bytes
    generalize p.bytes.rdropWhile (· ≠ slash) = start at hlast
    by_cases hnone : start = []
    · exact .inl hnone
    · have hslash : start.getLast hnone = slash := by simpa using hlast hnone
      refine .inr ⟨start.dropLast, ?_⟩
      rw [← hslash, List.dropLast_concat_getLast]

/-- A text that does not begin with a separator begins with a text without one, after which
there may be one. -/
theorem exists_added {rest : List UInt8} (hrest : rest ≠ [])
    (hhead : rest.head? ≠ some slash) :
    exists added after, added ++ after = rest ∧ added ≠ [] ∧ slash ∉ added ∧
      (after = [] ∨ exists more, after = slash :: more) := by
  refine ⟨rest.takeWhile (· ≠ slash), rest.dropWhile (· ≠ slash),
    List.takeWhile_append_dropWhile, ?_, ?_, ?_⟩
  · cases rest with
    | nil => exact absurd rfl hrest
    | cons b more =>
        have hb : b ≠ slash := fun h => hhead (congrArg some h)
        simp [hb]
  · intro hmem
    simpa using List.mem_takeWhile_imp hmem
  · have hafter := List.head?_dropWhile_not (· ≠ slash) rest
    generalize rest.dropWhile (· ≠ slash) = after at hafter
    cases after with
    | nil => exact .inl rfl
    | cons b more =>
        have hb : b = slash := by simpa using hafter
        exact .inr ⟨more, congrArg (· :: more) hb⟩

/-- The added text goes to the segment before it, up to the first separator. -/
theorem exists_parts_append {segment rest : List UInt8} (hsegment : slash ∉ segment)
    (hfull : segment ≠ []) (hrest : rest ≠ []) (hhead : rest.head? ≠ some slash) :
    exists component more, parts (segment ++ rest) = component :: more ∧
      component.segment ≠ segment := by
  rcases exists_added hrest hhead with ⟨added, after, hsplit, hsome, hadded, hafter⟩
  have hlonger : segment ++ added ≠ [dot] := by
    intro h
    have hlength := congrArg List.length h
    have hsegment := List.length_pos_of_ne_nil hfull
    have hadded := List.length_pos_of_ne_nil hsome
    rw [List.length_append, List.length_singleton] at hlength
    omega
  have hwhole : slash ∉ segment ++ added := by
    rw [List.mem_append, not_or]
    exact ⟨hsegment, hadded⟩
  rcases exists_component? (List.append_ne_nil_of_left_ne_nil hfull added) hlonger
    with ⟨component, hcomponent⟩
  have hparts : parts (segment ++ added) = [component] := by
    rw [parts_of_notMem hwhole, hcomponent]
    rfl
  have hother : component.segment ≠ segment := by
    rw [segment_of_component? hcomponent]
    intro h
    exact hsome (List.append_right_eq_self.mp h)
  rw [← hsplit, ← List.append_assoc]
  rcases hafter with hnone | ⟨more, hmore⟩
  · rw [hnone, List.append_nil, hparts]
    exact ⟨component, [], rfl, hother⟩
  · rw [hmore, parts_append_slash, hparts]
    exact ⟨component, parts more, rfl, hother⟩

/-- A path with text added to its last component does not lie under the path. -/
theorem not_prefix_of_longer {d : Path} {rest : List UInt8} (hfull : d.lastText ≠ [])
    (hdot : d.lastText ≠ [dot]) (hrest : rest ≠ []) (hhead : rest.head? ≠ some slash) :
    ¬ d.components <+: (Path.mk (d.bytes ++ rest)).components := by
  rcases exists_lastText d with ⟨hlast, start, hended, hsplit⟩
  have hanchor : anchor (d.bytes ++ rest) = anchor d.bytes := by
    rw [← hsplit]
    apply anchor_append_of_named (List.append_ne_nil_of_right_ne_nil start hfull)
    · intro h
      rcases List.append_eq_singleton_iff.mp h with ⟨-, h⟩ | ⟨-, h⟩
      · exact hlast (h ▸ List.mem_singleton_self slash)
      · exact hfull h
    · intro h
      rcases List.append_eq_singleton_iff.mp h with ⟨-, h⟩ | ⟨-, h⟩
      · exact hdot h
      · exact hfull h
    · exact hhead
  rcases exists_component? hfull hdot with ⟨component, hcomponent⟩
  rcases exists_parts_append hlast hfull hrest hhead with ⟨longer, more, hparts, hother⟩
  have hown : d.components = anchor d.bytes ++ (parts start ++ [component]) := by
    rw [Path.components, ← parts, ← hsplit, hended.parts_append, parts_of_notMem hlast,
      hcomponent]
    rfl
  have hextended : (Path.mk (d.bytes ++ rest)).components =
      anchor d.bytes ++ (parts start ++ longer :: more) := by
    rw [components_eq, hanchor, ← hsplit, List.append_assoc, hended.parts_append, hparts]
  rw [hown, hextended, List.prefix_append_right_inj, List.prefix_append_right_inj,
    List.cons_prefix_cons]
  intro hprefix
  rw [← hprefix.1, segment_of_component? hcomponent] at hother
  exact hother rfl

end Path

/-!
# Rules
-/

namespace Pattern

/-- Rules make no difference between the paths, be it that they are judged by a rule or that
the rule is for them. -/
structure TreatsAlike (p q : Path) : Prop where
  judgedUnder : forall directory, (under directory).evaluate p = (under directory).evaluate q
  judgedExactly : forall file, (exactly file).evaluate p = (exactly file).evaluate q
  asDirectory : forall path, (under p).evaluate path = (under q).evaluate path
  asFile : forall path, (exactly p).evaluate path = (exactly q).evaluate path

theorem treatsAlike_of_components_eq {p q : Path} (h : p.components = q.components) :
    TreatsAlike p q := by
  constructor
  all_goals
    intro other
    unfold evaluate
    simp only [Path.isUnder, Path.sameAs, h]

/-- A path is the file of a rule if each of the two lies under the other. -/
theorem excludes_exactly_iff {file p : Path} :
    (exactly file).excludes p = true <->
      (under file).excludes p = true ∧ (under p).excludes file = true := by
  rw [excludes_exactly, excludes_under, excludes_under]
  constructor
  · intro h
    rw [h]
    exact ⟨List.prefix_refl _, List.prefix_refl _⟩
  · intro h
    exact h.2.eq_of_length_le h.1.length_le

theorem excludes_under_trans {d e p : Path} (hde : (under d).excludes e = true)
    (hep : (under e).excludes p = true) : (under d).excludes p = true := by
  rw [excludes_under] at hde hep ⊢
  exact hde.trans hep

/-- Rules for directories and files go by components. -/
theorem rules_go_by_components :
    (forall p q : Path, Relation.ReflTransGen Path.Respelled p q -> TreatsAlike p q) ∧
    (forall file p : Path, (exactly file).excludes p = true <->
      (under file).excludes p = true ∧ (under p).excludes file = true) ∧
    (forall d e p : Path, (under d).excludes e = true -> (under e).excludes p = true ->
      (under d).excludes p = true) ∧
    forall (d : Path) (rest : List UInt8), d.lastText ≠ [] -> d.lastText ≠ [Path.dot] ->
      rest ≠ [] -> rest.head? ≠ some Path.slash ->
      (under d).excludes ⟨d.bytes ++ rest⟩ = false := by
  refine ⟨?_, ?_, ?_, ?_⟩
  · intro p q h
    exact treatsAlike_of_components_eq (Path.components_eq_of_respelled h)
  · intro file p
    exact excludes_exactly_iff
  · intro d e p hde hep
    exact excludes_under_trans hde hep
  · intro d rest hfull hdot hrest hhead
    rw [← Bool.not_eq_true, excludes_under]
    exact Path.not_prefix_of_longer hfull hdot hrest hhead

/-- A relative path with a byte that is no text, in two spellings, and the directories
`/usr` and `/usr/lib` with the file `/usr/lib/a`, of which `/usrlocal` is no part. -/
theorem rules_go_by_components_spelled :
    Relation.ReflTransGen Path.Respelled ⟨[0x2E, 0x2F, 0xFF]⟩
      ⟨[0x2E, 0x2F, 0x2F, 0xFF, 0x2F, 0x2E]⟩ ∧
    TreatsAlike ⟨[0x2E, 0x2F, 0xFF]⟩ ⟨[0x2E, 0x2F, 0x2F, 0xFF, 0x2F, 0x2E]⟩ ∧
    (under (Path.ofString "/usr")).excludes (Path.ofString "/usr/lib") = true ∧
    (under (Path.ofString "/usr/lib")).excludes (Path.ofString "/usr/lib/a") = true ∧
    (under (Path.ofString "/usr")).excludes (Path.ofString "/usr/lib/a") = true ∧
    (Path.ofString "/usr").lastText ≠ [] ∧ (Path.ofString "/usr").lastText ≠ [Path.dot] ∧
    (under (Path.ofString "/usr")).excludes (Path.ofString "/usrlocal") = false := by
  rcases rules_go_by_components with ⟨hspellings, -, htrans, hlonger⟩
  have hspelled : Relation.ReflTransGen Path.Respelled ⟨[0x2E, 0x2F, 0xFF]⟩
      ⟨[0x2E, 0x2F, 0x2F, 0xFF, 0x2F, 0x2E]⟩ := by
    have hrepeated : Path.Respelled ⟨[0x2E, 0x2F, 0xFF]⟩ ⟨[0x2E, 0x2F, 0x2F, 0xFF]⟩ :=
      .repeated [0x2E] [0xFF]
    exact (Relation.ReflTransGen.single hrepeated).tail (.endedDotted (List.cons_ne_nil _ _))
  have hlib : (under (Path.ofString "/usr")).excludes (Path.ofString "/usr/lib") = true := by
    decide +kernel
  have hfile : (under (Path.ofString "/usr/lib")).excludes (Path.ofString "/usr/lib/a") =
      true := by
    decide +kernel
  have hfull : (Path.ofString "/usr").lastText ≠ [] := by decide +kernel
  have hdot : (Path.ofString "/usr").lastText ≠ [Path.dot] := by decide +kernel
  have hlocal : Path.ofString "/usrlocal" =
      ⟨(Path.ofString "/usr").bytes ++ [0x6C, 0x6F, 0x63, 0x61, 0x6C]⟩ := by
    decide +kernel
  refine ⟨hspelled, hspellings _ _ hspelled, hlib, hfile, htrans _ _ _ hlib hfile, hfull,
    hdot, ?_⟩
  rw [hlocal]
  exact hlonger _ _ hfull hdot (List.cons_ne_nil _ _) (by decide)

end Pattern
end CompileOnLoad
