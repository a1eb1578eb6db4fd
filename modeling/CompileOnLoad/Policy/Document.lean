import CompileOnLoad.Json.Lexical
import CompileOnLoad.Json.Value
import CompileOnLoad.Path

/-!
# Policy documents

A policy document is a JSON object with any of five fields, or a list of their values in the
fixed order.  What is left out has its default.  It is read from the front and refused at
its first fault.
-/

namespace CompileOnLoad

structure Document where
  bootstrapFile : Option Path := none
  /-- The directories to exclude; if there are none given, the usual ones. -/
  systemDirectories : Option (List Path) := none
  exclude : List String := []
  excludeGenerated : Bool := true
  verbose : Bool := true
  deriving DecidableEq, Repr

namespace Document

open Json

inductive Field where
  | bootstrapFile
  | systemDirectories
  | exclude
  | excludeGenerated
  | verbose
  deriving DecidableEq, Repr

namespace Field

def all : List Field :=
  [bootstrapFile, systemDirectories, exclude, excludeGenerated, verbose]

def name : Field -> String
  | bootstrapFile => "bootstrap_file"
  | systemDirectories => "system_dirs"
  | exclude => "exclude"
  | excludeGenerated => "exclude_generated"
  | verbose => "verbose"

def ofName? (name : String) : Option Field := all.find? fun field => field.name = name

end Field

def pathOfChars (cs : List Char) : Path := ⟨Utf8.encode cs⟩

def readField (document : Document) (field : Field) (cs : List Char) : Reading Document :=
  match field with
  | .bootstrapFile =>
    (readOptional (readTextValue "path string") cs).map fun (file, rest) =>
      ({ document with bootstrapFile := file.map pathOfChars }, rest)
  | .systemDirectories =>
    (readOptional (readTexts "path string") cs).map fun (directories, rest) =>
      ({ document with systemDirectories := directories.map (·.map pathOfChars) }, rest)
  | .exclude =>
    (readTexts "a string" cs).map fun (sources, rest) =>
      ({ document with exclude := sources.map String.ofList }, rest)
  | .excludeGenerated =>
    (readBoolean cs).map fun (value, rest) =>
      ({ document with excludeGenerated := value }, rest)
  | .verbose =>
    (readBoolean cs).map fun (value, rest) => ({ document with verbose := value }, rest)

/-- A fault of a key.  It counts as read what stands before the next part of the document,
and the end of the object if it stands there. -/
def keyFault (cause : Cause) (cs : List Char) : Fault :=
  match skipSpace cs with
  | '\x7d' :: rest => { cause, rest }
  | rest => { cause, rest }

/-- Goes to the next key of an object, to after its opening quote, or past the end of the
object. -/
def nextKey (first : Bool) (cs : List Char) : Except Fault Next :=
  match skipSpace cs with
  | [] => .error { cause := .endInObject, rest := [] }
  | '\x7d' :: rest => .ok (.finished rest)
  | c :: rest =>
    if first then
      if c = '"' then .ok (.item rest) else .error (faultAt .keyNotText (c :: rest))
    else if c = ',' then
      match skipSpace rest with
      | '"' :: key => .ok (.item key)
      | '\x7d' :: after => .error (faultAt .trailingComma ('\x7d' :: after))
      | [] => .error { cause := .endInValue, rest := [] }
      | other => .error (faultAt .keyNotText other)
    else .error (faultAt .objectCommaExpected (c :: rest))

def readColon (cs : List Char) : Except Fault (List Char) :=
  match skipSpace cs with
  | [] => .error { cause := .endInObject, rest := [] }
  | ':' :: rest => .ok rest
  | other => .error (faultAt .colonExpected other)

/-- Reads a key, from after its opening quote: it names a field that has not been read
before. -/
def readKey (unread : List Field) (cs : List Char) :
    Reading { field : Field // field ∈ unread } :=
  match readText cs with
  | .error fault => .error fault
  | .ok (key, rest) =>
    let name := String.ofList key
    match Field.ofName? name with
    | none => .error (keyFault (.unknownField name (Field.all.map Field.name)) rest)
    | some field =>
      if h : field ∈ unread then .ok (⟨field, h⟩, rest)
      else .error (keyFault (.duplicateField name) rest)

def readMembers (unread : List Field) (first : Bool) (document : Document) (cs : List Char) :
    Reading Document :=
  match nextKey first cs with
  | .error fault => .error fault
  | .ok (.finished rest) => .ok (document, rest)
  | .ok (.item key) =>
    match readKey unread key with
    | .error fault => .error fault
    | .ok (⟨field, unread_field⟩, rest) =>
      match (readColon rest).bind (readField document field) with
      | .error fault => .error fault
      | .ok (document, rest) =>
        have := List.length_erase_of_mem unread_field
        have := List.length_pos_of_mem unread_field
        readMembers (unread.erase field) false document rest
termination_by unread.length

def readEnd (cs : List Char) : Except Fault (List Char) :=
  match skipSpace cs with
  | [] => .error { cause := .endInList, rest := [] }
  | ']' :: rest => .ok rest
  | ',' :: rest =>
    match skipSpace rest with
    | ']' :: after => .error (faultAt .trailingComma (']' :: after))
    | other => .error (faultAt .trailingCharacters other)
  | other => .error (faultAt .trailingCharacters other)

def readValues (first : Bool) (document : Document) :
    List Field -> List Char -> Reading Document
  | [], cs => (readEnd cs).map fun rest => (document, rest)
  | field :: fields, cs =>
    match nextItem first cs with
    | .error fault => .error fault
    | .ok (.finished rest) => .ok (document, rest)
    | .ok (.item item) =>
      match readField document field item with
      | .error fault => .error fault
      | .ok (document, rest) => readValues false document fields rest

def readBody (cs : List Char) : Reading Document :=
  match skipSpace cs with
  | '[' :: rest => readValues true {} Field.all rest
  | '\x7b' :: rest => readMembers Field.all true {} rest
  | other => .error (mismatch "struct PolicyFile" other)

def read (cs : List Char) : Except Fault Document :=
  match readBody cs with
  | .error fault => .error fault
  | .ok (document, rest) =>
    match skipSpace rest with
    | [] => .ok document
    | other => .error (faultAt .trailingCharacters other)

def ofText (text : String) : Except String Document :=
  (read text.toList).mapError fun fault => fault.message text.toList

def pathValue (p : Path) : Option Value :=
  (Utf8.decode? p.bytes).map .text

def optionalValue (value : α -> Option Value) : Option α -> Option Value
  | none => some .null
  | some a => value a

def toValue (document : Document) : Option Value := do
  let file ← optionalValue pathValue document.bootstrapFile
  let directories ← optionalValue (fun paths => (paths.mapM pathValue).map .list)
    document.systemDirectories
  let member (field : Field) (value : Value) : List Char × Value := (field.name.toList, value)
  some (.object [
    member .bootstrapFile file,
    member .systemDirectories directories,
    member .exclude (.list (document.exclude.map fun source => .text source.toList)),
    member .excludeGenerated (.boolean document.excludeGenerated),
    member .verbose (.boolean document.verbose)])

def unwritable : String := "path contains invalid UTF-8 characters"

def compact? (document : Document) : Option String :=
  document.toValue.map fun value => String.ofList value.compact

def laidOut? (document : Document) : Option String :=
  document.toValue.map fun value => String.ofList (value.laidOut 0)

end Document
end CompileOnLoad
