import CompileOnLoad.Policy.Document
import CompileOnLoad.Proofs.JsonLayouts
import CompileOnLoad.Proofs.Utf8

/-!
# Fields of policy documents

Each field of a document has a value, and reading a text of the value copies the field.  A
field admits the values that it has in some document, and reads no others.
-/

namespace CompileOnLoad
namespace Document

open Json

/-!
# Names
-/

theorem ofName?_name (field : Field) : Field.ofName? field.name = some field := by
  cases field <;> rfl

variable {field : Field} {value : Value}

theorem Field.name_injective {other : Field} (h : field.name.toList = other.name.toList) :
    field = other := by
  have hname := ofName?_name field
  rw [String.toList_inj.mp h, ofName?_name, Option.some.injEq] at hname
  exact hname.symm

/-!
# Values
-/

def fieldValue? (document : Document) : Field -> Option Value
  | .bootstrapFile => optionalValue pathValue document.bootstrapFile
  | .systemDirectories =>
    optionalValue (fun paths => (paths.mapM pathValue).map .list) document.systemDirectories
  | .exclude => some (.list (document.exclude.map fun source => .text source.toList))
  | .excludeGenerated => some (.boolean document.excludeGenerated)
  | .verbose => some (.boolean document.verbose)

theorem exists_fieldValue?_default (field : Field) :
    exists value, ({} : Document).fieldValue? field = some value := by
  cases field <;> exact ⟨_, rfl⟩

theorem pathValue_eq_some {path : Path} {value : Value} (h : pathValue path = some value) :
    exists cs, value = .text cs ∧ pathOfChars cs = path := by
  rcases Option.map_eq_some_iff.mp h with ⟨cs, hcs, rfl⟩
  refine ⟨cs, rfl, ?_⟩
  rw [pathOfChars, ← Utf8.decode?_eq_some_iff.mp hcs]

theorem mapM_pathValue_eq_some {paths : List Path} {values : List Value}
    (h : paths.mapM pathValue = some values) :
    exists texts : List (List Char),
      values = texts.map .text ∧ texts.map pathOfChars = paths := by
  induction paths generalizing values with
  | nil =>
      cases h
      exact ⟨[], rfl, rfl⟩
  | cons path paths ih =>
      simp only [List.mapM_cons, Option.bind_eq_bind, Option.bind_eq_some_iff,
        Option.pure_def, Option.some.injEq] at h
      rcases h with ⟨value, hvalue, more, hmore, rfl⟩
      rcases pathValue_eq_some hvalue with ⟨cs, rfl, rfl⟩
      rcases ih hmore with ⟨texts, rfl, rfl⟩
      exact ⟨cs :: texts, rfl, rfl⟩

theorem pathValue_pathOfChars (cs : List Char) :
    pathValue (pathOfChars cs) = some (.text cs) := by
  rw [pathValue, pathOfChars, Utf8.decode?_encode]
  rfl

theorem mapM_pathValue_pathOfChars (texts : List (List Char)) :
    (texts.map pathOfChars).mapM pathValue = some (texts.map .text) := by
  induction texts with
  | nil => rfl
  | cons cs texts ih =>
      rw [List.map_cons, List.mapM_cons, pathValue_pathOfChars, ih]
      rfl

/-- The values that a field may be given.  Only the first two may be left out by a `null`. -/
def Field.Admits : Field -> Value -> Prop
  | bootstrapFile, value => value = .null ∨ exists cs, value = .text cs
  | systemDirectories, value =>
    value = .null ∨ exists texts : List (List Char), value = .list (texts.map .text)
  | exclude, value => exists texts : List (List Char), value = .list (texts.map .text)
  | excludeGenerated, value => exists b, value = .boolean b
  | verbose, value => exists b, value = .boolean b

theorem admits_of_fieldValue? {document : Document}
    (h : document.fieldValue? field = some value) : field.Admits value := by
  cases field with
  | bootstrapFile =>
      cases hfile : document.bootstrapFile with
      | none =>
          rw [fieldValue?, hfile] at h
          cases h
          exact .inl rfl
      | some path =>
          rw [fieldValue?, hfile] at h
          rcases pathValue_eq_some h with ⟨cs, rfl, _⟩
          exact .inr ⟨cs, rfl⟩
  | systemDirectories =>
      cases hdirectories : document.systemDirectories with
      | none =>
          rw [fieldValue?, hdirectories] at h
          cases h
          exact .inl rfl
      | some paths =>
          rw [fieldValue?, hdirectories] at h
          rcases Option.map_eq_some_iff.mp h with ⟨values, hvalues, rfl⟩
          rcases mapM_pathValue_eq_some hvalues with ⟨texts, rfl, _⟩
          exact .inr ⟨texts, rfl⟩
  | exclude =>
      cases h
      exact ⟨document.exclude.map String.toList, by simp [Function.comp_def]⟩
  | excludeGenerated =>
      cases h
      exact ⟨_, rfl⟩
  | verbose =>
      cases h
      exact ⟨_, rfl⟩

theorem isValue_of_admits {write : Value -> List Char} (hlayout : IsLayout write)
    (h : field.Admits value) : IsValue (write value) value := by
  cases field with
  | bootstrapFile =>
      rcases h with rfl | ⟨cs, rfl⟩
      · exact hlayout.isValue_null
      · exact hlayout.isValue_text cs
  | systemDirectories =>
      rcases h with rfl | ⟨texts, rfl⟩
      · exact hlayout.isValue_null
      · exact hlayout.isValue_texts texts
  | exclude =>
      rcases h with ⟨texts, rfl⟩
      exact hlayout.isValue_texts texts
  | excludeGenerated =>
      rcases h with ⟨b, rfl⟩
      exact hlayout.isValue_boolean b
  | verbose =>
      rcases h with ⟨b, rfl⟩
      exact hlayout.isValue_boolean b

/-- A value that a field admits is that of the field in some document. -/
theorem exists_source_of_admits (h : field.Admits value) :
    exists source : Document, source.fieldValue? field = some value := by
  cases field with
  | bootstrapFile =>
      rcases h with rfl | ⟨cs, rfl⟩
      · exact ⟨{}, rfl⟩
      · exact ⟨{ bootstrapFile := some (pathOfChars cs) }, pathValue_pathOfChars cs⟩
  | systemDirectories =>
      rcases h with rfl | ⟨texts, rfl⟩
      · exact ⟨{}, rfl⟩
      · exact ⟨{ systemDirectories := some (texts.map pathOfChars) },
          congrArg (Option.map Value.list) (mapM_pathValue_pathOfChars texts)⟩
  | exclude =>
      rcases h with ⟨texts, rfl⟩
      refine ⟨{ exclude := texts.map String.ofList }, ?_⟩
      simp [fieldValue?, Function.comp_def]
  | excludeGenerated =>
      rcases h with ⟨b, rfl⟩
      exact ⟨{ excludeGenerated := b }, rfl⟩
  | verbose =>
      rcases h with ⟨b, rfl⟩
      exact ⟨{ verbose := b }, rfl⟩

/-!
# Copies
-/

def copy (source target : Document) : Field -> Document
  | .bootstrapFile => { target with bootstrapFile := source.bootstrapFile }
  | .systemDirectories => { target with systemDirectories := source.systemDirectories }
  | .exclude => { target with exclude := source.exclude }
  | .excludeGenerated => { target with excludeGenerated := source.excludeGenerated }
  | .verbose => { target with verbose := source.verbose }

theorem foldl_copy (source target : Document) : Field.all.foldl source.copy target = source :=
  rfl

theorem fieldValue?_copy_self (source target : Document) (field : Field) :
    (source.copy target field).fieldValue? field = source.fieldValue? field := by
  cases field <;> rfl

theorem fieldValue?_copy_of_ne (source target : Document) {field other : Field}
    (h : other ≠ field) :
    (source.copy target field).fieldValue? other = target.fieldValue? other := by
  cases field <;> cases other <;> first | rfl | exact absurd rfl h

/-!
# Reading a field
-/

variable {written : List Char}

theorem reads_isFile (hwritten : IsValue written value) {file : Option Path}
    (hvalue : optionalValue pathValue file = some value) :
    exists text, text.map pathOfChars = file ∧
      Reads (readOptional (readTextValue "path string")) written text := by
  cases file with
  | none =>
      cases hvalue
      exact ⟨none, rfl, reads_isNull hwritten⟩
  | some path =>
      rcases pathValue_eq_some hvalue with ⟨cs, rfl, rfl⟩
      refine ⟨some cs, rfl, reads_isPresent hwritten (fun heq => nomatch heq) ?_⟩
      cases hwritten with
      | text h => exact reads_isText h _

theorem reads_areDirectories (hwritten : IsValue written value)
    {directories : Option (List Path)}
    (hvalue : optionalValue (fun paths => (paths.mapM pathValue).map .list) directories =
      some value) :
    exists texts, texts.map (·.map pathOfChars) = directories ∧
      Reads (readOptional (readTexts "path string")) written texts := by
  cases directories with
  | none =>
      cases hvalue
      exact ⟨none, rfl, reads_isNull hwritten⟩
  | some paths =>
      rcases Option.map_eq_some_iff.mp hvalue with ⟨values, hvalues, rfl⟩
      rcases mapM_pathValue_eq_some hvalues with ⟨texts, rfl, rfl⟩
      exact ⟨some texts, rfl, reads_isPresent hwritten (fun heq => nomatch heq)
        (reads_isList hwritten _)⟩

/-- Reading the value that a field has in a document copies the field. -/
theorem reads_isField {source : Document} (hwritten : IsValue written value)
    (hvalue : source.fieldValue? field = some value) (target : Document) :
    Reads (readField target field) written (source.copy target field) := by
  cases field with
  | bootstrapFile =>
      rcases reads_isFile hwritten hvalue with ⟨text, hfile, hreads⟩
      rw [copy, ← hfile]
      exact hreads.map fun file => { target with bootstrapFile := file.map pathOfChars }
  | systemDirectories =>
      rcases reads_areDirectories hwritten hvalue with ⟨texts, hdirectories, hreads⟩
      rw [copy, ← hdirectories]
      exact hreads.map fun directories =>
        { target with systemDirectories := directories.map (List.map pathOfChars) }
  | exclude =>
      cases hvalue
      have hsources : source.exclude =
        (source.exclude.map String.toList).map String.ofList := by
        simp
      have htexts : (source.exclude.map fun source => Value.text source.toList) =
          (source.exclude.map String.toList).map .text := by
        rw [List.map_map]
        rfl
      rw [htexts] at hwritten
      rw [copy, hsources]
      exact (reads_isList hwritten "a string").map fun sources =>
        { target with exclude := sources.map String.ofList }
  | excludeGenerated =>
      cases hvalue
      exact (reads_isBoolean hwritten).map fun value =>
        { target with excludeGenerated := value }
  | verbose =>
      cases hvalue
      exact (reads_isBoolean hwritten).map fun value => { target with verbose := value }

theorem refuses_readField (hwritten : IsValue written value) (hvalue : ¬ field.Admits value)
    (target : Document) : Refuses (readField target field) written := by
  cases field with
  | bootstrapFile =>
      rcases not_or.mp hvalue with ⟨hnull, htext⟩
      exact (refuses_readOptional hwritten hnull
        (refuses_readTextValue hwritten (not_exists.mp htext) _)).map fun file =>
          { target with bootstrapFile := file.map pathOfChars }
  | systemDirectories =>
      rcases not_or.mp hvalue with ⟨hnull, htexts⟩
      exact (refuses_readOptional hwritten hnull
        (refuses_readTexts hwritten (not_exists.mp htexts) _)).map fun directories =>
          { target with systemDirectories := directories.map (List.map pathOfChars) }
  | exclude =>
      exact (refuses_readTexts hwritten (not_exists.mp hvalue) _).map fun sources =>
        { target with exclude := sources.map String.ofList }
  | excludeGenerated =>
      exact (refuses_readBoolean hwritten (not_exists.mp hvalue)).map fun value =>
        { target with excludeGenerated := value }
  | verbose =>
      exact (refuses_readBoolean hwritten (not_exists.mp hvalue)).map fun value =>
        { target with verbose := value }

/-- A field is copied alike from documents in which it has one value, since the value has a
text that it is read from. -/
theorem copy_eq_of_fieldValue? {source source' : Document}
    (h : source.fieldValue? field = some value) (h' : source'.fieldValue? field = some value)
    (target : Document) : source.copy target field = source'.copy target field := by
  have hwritten := isValue_of_admits isLayout_compact (admits_of_fieldValue? h)
  have hread := reads_isField hwritten h target [] [] isGap_nil
  rw [reads_isField hwritten h' target [] [] isGap_nil] at hread
  injection hread with hread
  exact (Prod.mk.inj hread).1.symm

end Document
end CompileOnLoad
