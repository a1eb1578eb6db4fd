import CompileOnLoad.Text.Utf8

/-!
# Paths

A path is a byte string.  Two paths are compared by their components: repeated separators,
separators at the end and `.` between separators do not count, `..` is a component like any
other and is never resolved, and a `.` counts only where it begins a relative path.
-/

namespace CompileOnLoad

structure Path where
  bytes : List UInt8
  deriving DecidableEq, Repr

namespace Path

inductive Component where
  | root
  | here
  | up
  | name (bytes : List UInt8)
  deriving DecidableEq, Repr

def ofString (s : String) : Path :=
  ⟨Utf8.encode s.toList⟩

instance : Inhabited Path := ⟨⟨[]⟩⟩

def slash : UInt8 := 0x2F
def dot : UInt8 := 0x2E

/-- The text of a path, with a replacement character for each invalid stretch. -/
def text (p : Path) : String :=
  String.ofList (Utf8.shown p.bytes)

def text? (p : Path) : Option String :=
  (Utf8.decode? p.bytes).map String.ofList

def segments : List UInt8 -> List (List UInt8)
  | [] => [[]]
  | b :: rest =>
    if b = slash then [] :: segments rest
    else
      match segments rest with
      | [] => [[b]]
      | s :: more => (b :: s) :: more

/-- The component that a segment stands for; an empty segment and `.` stand for none. -/
def component? (segment : List UInt8) : Option Component :=
  if segment = [] ∨ segment = [dot] then none
  else if segment = [dot, dot] then some .up
  else some (.name segment)

/-- What stands before the first named component: the root, a `.` that begins a relative
path, or nothing. -/
def anchor (bytes : List UInt8) : List Component :=
  match bytes with
  | [] => []
  | [b] => if b = slash then [.root] else if b = dot then [.here] else []
  | b :: c :: _ =>
    if b = slash then [.root] else if b = dot ∧ c = slash then [.here] else []

def components (p : Path) : List Component :=
  anchor p.bytes ++ (segments p.bytes).filterMap component?

def sameAs (p q : Path) : Bool :=
  p.components == q.components

/-- The path lies under a directory: its components begin with those of the directory. -/
def isUnder (p dir : Path) : Bool :=
  dir.components.isPrefixOf p.components

theorem sameAs_iff {p q : Path} : p.sameAs q = true <-> p.components = q.components :=
  beq_iff_eq

theorem isUnder_iff {p dir : Path} :
    p.isUnder dir = true <-> dir.components <+: p.components :=
  List.isPrefixOf_iff_prefix

def fileName? (p : Path) : Option (List UInt8) :=
  match p.components.getLast? with
  | some (.name n) => some n
  | _ => none

/-- A file name up to its last `.`; a name without one, or with none but the `.` it begins
with, is its own stem. -/
def stem (name : List UInt8) : List UInt8 :=
  let before := (name.reverse.dropWhile (· ≠ dot)).drop 1
  if before = [] then name else before.reverse

/-- Drops separators and `.` segments from the end of a path that is given in reverse. -/
def dropTrailing : List UInt8 -> List UInt8
  | [] => []
  | b :: rest =>
    if b = slash then dropTrailing rest
    else
      match rest with
      | c :: more => if b = dot ∧ c = slash then dropTrailing more else b :: rest
      | [] => [b]

def extension (name : List UInt8) : List UInt8 :=
  name.drop ((stem name).length + 1)

/-- Puts a `.` and an extension after the stem of the file name, in the stead of all that
follows it.  A path whose last component is no name stays as it is. -/
def extend (p : Path) (extension : String) : Path :=
  match p.fileName? with
  | none => p
  | some name =>
    let named := (dropTrailing p.bytes.reverse).reverse
    ⟨named.take (named.length - name.length) ++ stem name ++ dot ::
      Utf8.encode extension.toList⟩

/-- The path with another extension.  First as many bytes as the old extension has are cut
off the end, so a name that is two dots and an extension leaves `..`, which gets no
extension. -/
def withExtension (p : Path) (newExtension : String) : Path :=
  match p.fileName? with
  | none => p
  | some name => extend ⟨p.bytes.take (p.bytes.length - (extension name).length)⟩ newExtension

end Path
end CompileOnLoad
