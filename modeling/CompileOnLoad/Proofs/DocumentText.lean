import CompileOnLoad.Proofs.DocumentObject

/-!
# Policy documents as texts

A document is written if all its paths are UTF-8, and the document that is read from what
was written, in either layout, is the one that was written.  What is written is a text of an
object that has a member for each field, and these give the document and no other.
-/

namespace CompileOnLoad

def Path.IsUtf8 (path : Path) : Prop :=
  exists cs, path.bytes = Utf8.encode cs

namespace Document

open Json

/-!
# The values of the fields
-/

def paths (document : Document) : List Path :=
  document.bootstrapFile.toList ++ document.systemDirectories.getD []

theorem exists_values_of_toValue {document : Document} {value : Value}
    (h : document.toValue = some value) :
    exists values : Field -> Value,
      (forall field, document.fieldValue? field = some (values field)) ∧
      value = .object (Field.all.map fun field => (field.name.toList, values field)) := by
  simp only [toValue, Option.bind_eq_bind, Option.bind_eq_some_iff, Option.some.injEq] at h
  rcases h with ⟨file, hfile, directories, hdirectories, rfl⟩
  refine ⟨fun field => (document.fieldValue? field).getD .null, ?_, ?_⟩
  · intro field
    cases field with
    | bootstrapFile => simp only [fieldValue?, hfile, Option.getD_some]
    | systemDirectories => simp only [fieldValue?, hdirectories, Option.getD_some]
    | exclude => rfl
    | excludeGenerated => rfl
    | verbose => rfl
  · simp only [Field.all, List.map_cons, List.map_nil, fieldValue?, hfile, hdirectories,
      Option.getD_some]

theorem isSome_pathValue {path : Path} : (pathValue path).isSome <-> path.IsUtf8 := by
  rw [pathValue, Option.isSome_map, Utf8.isSome_decode?]
  rfl

theorem isSome_mapM_pathValue {paths : List Path} :
    (paths.mapM pathValue).isSome <-> forall path, path ∈ paths -> path.IsUtf8 := by
  induction paths with
  | nil => simp
  | cons path paths ih =>
      rw [List.mapM_cons, List.forall_mem_cons, ← isSome_pathValue, ← ih]
      cases pathValue path <;> cases paths.mapM pathValue <;> simp

theorem isSome_toValue {document : Document} :
    document.toValue.isSome <-> forall path, path ∈ document.paths -> path.IsUtf8 := by
  rw [paths, List.forall_mem_append]
  have hfile : (optionalValue pathValue document.bootstrapFile).isSome <->
      forall path, path ∈ document.bootstrapFile.toList -> path.IsUtf8 := by
    cases document.bootstrapFile with
    | none => simp [optionalValue]
    | some path => simp [optionalValue, isSome_pathValue]
  have hdirectories : (optionalValue (fun paths => (paths.mapM pathValue).map Value.list)
      document.systemDirectories).isSome <->
        forall path, path ∈ document.systemDirectories.getD [] -> path.IsUtf8 := by
    cases document.systemDirectories with
    | none => simp [optionalValue]
    | some paths => simp only [optionalValue, Option.isSome_map, isSome_mapM_pathValue,
        Option.getD_some]
  rw [← hfile, ← hdirectories, toValue]
  cases optionalValue pathValue document.bootstrapFile with
  | none => simp
  | some file =>
      cases optionalValue (fun paths => (paths.mapM pathValue).map Value.list)
        document.systemDirectories <;> simp

/-!
# Written members
-/

def member (space : List Char) (write : Value -> List Char) (values : Field -> Value)
    (field : Field) : List Char :=
  writeText field.name.toList ++ ':' :: (space ++ write (values field))

variable {document : Document} {values : Field -> Value} {write : Value -> List Char}
  {space gap after : List Char}

def membersOf (values : Field -> Value) : Members :=
  Field.all.map fun field => (field.name.toList, values field)

theorem isMember_member (hlayout : IsLayout write) (hspace : IsGap space)
    (hvalues : forall field, document.fieldValue? field = some (values field))
    (field : Field) :
    IsMember IsValue (member space write values field) (field.name.toList, values field) := by
  have hvalue := isValue_of_admits hlayout (admits_of_fieldValue? (hvalues field))
  have hmember := IsMember.member (isText_writeText field.name.toList) isGap_nil hspace hvalue
  rw [List.append_nil, List.append_assoc] at hmember
  exact hmember

theorem isJson_enclosed (hlayout : IsLayout write) (hspace : IsGap space) (hgap : IsGap gap)
    (hafter : IsGap after)
    (hvalues : forall field, document.fieldValue? field = some (values field)) :
    IsJson (String.ofList (enclosed '\x7b' '\x7d' gap after
      (Field.all.map (member space write values)))) (.object (membersOf values)) := by
  have hvalue := isValue_enclosed_object hgap hafter Field.all
    fun field _ => isMember_member hlayout hspace hvalues field
  exact .of_toList isGap_nil hvalue isGap_nil (by simp)

theorem mem_membersOf {field : Field} {value : Value} :
    (field.name.toList, value) ∈ membersOf values <-> value = values field := by
  constructor
  · intro hmember
    rcases List.mem_map.mp hmember with ⟨other, _, heq⟩
    rcases Prod.mk.inj heq with ⟨hname, rfl⟩
    rw [Field.name_injective hname]
  · rintro rfl
    exact List.mem_map.mpr ⟨field, by cases field <;> decide, rfl⟩

theorem wellFormed_membersOf
    (hvalues : forall field, document.fieldValue? field = some (values field)) :
    WellFormed Field.all (membersOf values) where
  known key hkey := by
    rcases exists_mem_of_mem_keys hkey with ⟨value, hmember⟩
    rcases List.mem_map.mp hmember with ⟨field, hfield, heq⟩
    exact ⟨field, hfield, (Prod.mk.inj heq).1⟩
  distinct := by
    have hnames : (Field.all.map fun field => field.name.toList).Nodup := by decide
    rw [Members.keys, membersOf, List.map_map]
    exact hnames
  admitted field value hmember := by
    rw [mem_membersOf.mp hmember]
    exact admits_of_fieldValue? (hvalues field)

theorem given_membersOf
    (hvalues : forall field, document.fieldValue? field = some (values field)) :
    Given (membersOf values) {} document := by
  intro field
  constructor
  · intro value hmember
    rw [mem_membersOf.mp hmember]
    exact hvalues field
  · intro hkey
    exact absurd (mem_keys_of_mem (mem_membersOf.mpr rfl)) hkey

theorem ofText_membersOf {text : String} (h : IsJson text (.object (membersOf values)))
    (hvalues : forall field, document.fieldValue? field = some (values field)) :
    ofText text = .ok document := by
  rcases (ofText_object h).1 (wellFormed_membersOf hvalues) with ⟨read, hgiven, hread⟩
  rw [hread, hgiven.eq exists_fieldValue?_default (given_membersOf hvalues)]

/-!
# Both layouts
-/

theorem compact_object (values : Field -> Value) :
    (Value.object (Field.all.map fun field => (field.name.toList, values field))).compact =
      enclosed '\x7b' '\x7d' [] [] (Field.all.map (member [] Value.compact values)) := by
  rw [Value.compact, compactMembers_eq_map, List.map_map, enclosed]
  simp only [List.append_nil, List.cons_append, List.nil_append]
  rfl

theorem laidOut_object (values : Field -> Value) :
    (Value.object (Field.all.map fun field => (field.name.toList, values field))).laidOut 0 =
      enclosed '\x7b' '\x7d' (newLine 1) (newLine 0)
        (Field.all.map (member [' '] (Value.laidOut 1) values)) := by
  rw [Value.laidOut, laidOutMembers_eq_map, List.map_map]
  exact block_of_ne_nil (List.cons_ne_nil _ _)

theorem isSome_compact? {document : Document} :
    document.compact?.isSome <-> forall path, path ∈ document.paths -> path.IsUtf8 := by
  rw [compact?, Option.isSome_map, isSome_toValue]

theorem isSome_laidOut? {document : Document} :
    document.laidOut?.isSome <-> forall path, path ∈ document.paths -> path.IsUtf8 := by
  rw [laidOut?, Option.isSome_map, isSome_toValue]

theorem ofText_compact {text : String} (h : document.compact? = some text) :
    ofText text = .ok document := by
  rcases Option.map_eq_some_iff.mp h with ⟨value, hvalue, rfl⟩
  rcases exists_values_of_toValue hvalue with ⟨values, hvalues, rfl⟩
  rw [compact_object]
  exact ofText_membersOf
    (isJson_enclosed isLayout_compact isGap_nil isGap_nil isGap_nil hvalues)
    hvalues

theorem ofText_laidOut {text : String} (h : document.laidOut? = some text) :
    ofText text = .ok document := by
  rcases Option.map_eq_some_iff.mp h with ⟨value, hvalue, rfl⟩
  rcases exists_values_of_toValue hvalue with ⟨values, hvalues, rfl⟩
  rw [laidOut_object]
  exact ofText_membersOf
    (isJson_enclosed (isLayout_laidOut 1) isGap_space (isGap_newLine 1)
      (isGap_newLine 0) hvalues)
    hvalues

/-- A document is written, in either layout, exactly if all its paths are UTF-8.  What was
written is read as the document, and as the policy that the document describes. -/
theorem written_read_back (document : Document) :
    (document.compact?.isSome <-> forall path, path ∈ document.paths -> path.IsUtf8) ∧
    (document.laidOut?.isSome <-> forall path, path ∈ document.paths -> path.IsUtf8) ∧
    forall text, document.compact? = some text ∨ document.laidOut? = some text ->
      ofText text = .ok document ∧
      Policy.ofText text = .ok (Policy.ofDocument document) := by
  refine ⟨isSome_compact?, isSome_laidOut?, ?_⟩
  intro text htext
  have hread : ofText text = .ok document := by
    rcases htext with htext | htext
    · exact ofText_compact htext
    · exact ofText_laidOut htext
  constructor
  · exact hread
  · rw [Policy.ofText, hread]

/-- A document with quotes, a backslash, control characters and characters beyond ASCII. -/
def quoting : Document where
  bootstrapFile := some (.ofString "/home/ü/\"init\".el")
  systemDirectories := some []
  exclude := ["\\.el$", "a\tb\u0001", "𝄞/"]
  verbose := false

def quotingText : String :=
  "\x7b\"bootstrap_file\":\"/home/ü/\\\"init\\\".el\",\"system_dirs\":[]," ++
    "\"exclude\":[\"\\\\.el$\",\"a\\tb\\u0001\",\"𝄞/\"]," ++
      "\"exclude_generated\":true,\"verbose\":false\x7d"

theorem written_read_back_quoting :
    quoting.compact? = some quotingText ∧ ofText quotingText = .ok quoting ∧
      Policy.ofText quotingText = .ok (Policy.ofDocument quoting) := by
  have htext : quoting.compact? = some quotingText := by decide +kernel
  exact ⟨htext, (written_read_back quoting).2.2 quotingText (.inl htext)⟩

end Document
end CompileOnLoad
