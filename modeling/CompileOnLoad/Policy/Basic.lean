import CompileOnLoad.Files
import CompileOnLoad.Policy.Document
import CompileOnLoad.Policy.Pattern

/-!
# Policies

A policy is a list of exclusion patterns; a path is excluded by the first that matches it.
A policy is built from a document, which is given as text or stands in a file.
-/

namespace CompileOnLoad

/-- Which files are not compiled, and whether progress is reported at the level of messages
for all. -/
structure Policy where
  exclusions : List Pattern := []
  verbose : Bool := true

inductive ConfigError where
  | io (path : Path) (message : String)
  | parse (path : Option Path) (message : String)
  | invalidPattern (source message : String)
  deriving DecidableEq, Repr

def ConfigError.message : ConfigError -> String
  | io path message => "cannot read policy file '" ++ path.text ++ "': " ++ message
  | parse none message => "invalid policy: " ++ message
  | parse (some path) message => "invalid policy in '" ++ path.text ++ "': " ++ message
  | invalidPattern source message =>
    "invalid exclusion pattern '" ++ source ++ "': " ++ message

def Pattern.ofValidRegex (source : String) : Except ConfigError Pattern :=
  match Regex.compile source with
  | .ok _ => .ok (ofRegex source)
  | .error error =>
    .error (.invalidPattern source
      (PatternError.invalidRegex source (error.message source)).message)

def systemDirectories : List Path :=
  ["/usr", "/opt", "/nix/store", "/gnu/store"].map Path.ofString

/-- Matches the names of generated files: a marker before the suffix, which may have several
parts. -/
def generatedMarker : String := "-(?:autoloads|loaddefs|pkg)(?:\\.[^./]+)+$"

namespace Policy

def empty : Policy := {}

instance : Inhabited Policy := ⟨empty⟩

def push (policy : Policy) (pattern : Pattern) : Policy :=
  { policy with exclusions := policy.exclusions ++ [pattern] }

/-- The bootstrap file if there is one, the directories of installed files, and generated
files. -/
def reference (bootstrapFile : Option Path) : Policy where
  exclusions :=
    bootstrapFile.toList.map .exactly ++ systemDirectories.map .under ++
      [.ofRegex generatedMarker]

def standard : Policy := reference none

def ofDocument (document : Document) : Policy where
  exclusions :=
    document.bootstrapFile.toList.map .exactly ++
      (document.systemDirectories.getD systemDirectories).map .under ++
      (if document.excludeGenerated then [.ofRegex generatedMarker] else []) ++
      document.exclude.map .ofRegex
  verbose := document.verbose

def ofText (text : String) : Except ConfigError Policy :=
  match Document.ofText text with
  | .ok document => .ok (ofDocument document)
  | .error message => .error (.parse none message)

def ofFile (files : Files) (path : Path) : Except ConfigError Policy :=
  match files.readText path with
  | .error error => .error (.io path error.message)
  | .ok text =>
    match Document.ofText text with
    | .ok document => .ok (ofDocument document)
    | .error message => .error (.parse (some path) message)

def retain (policy : Policy) (keep : Pattern -> Bool) : Policy :=
  { policy with exclusions := policy.exclusions.filter keep }

def prune (policy : Policy) : Policy := policy.retain fun pattern => !pattern.isInvalid

def invalidPatterns (policy : Policy) : List Pattern :=
  policy.exclusions.filter Pattern.isInvalid

def firstExclusion (policy : Policy) (path : Path) : Option Nat :=
  policy.exclusions.findIdx? fun pattern => pattern.excludes path

def shown (policy : Policy) : String :=
  "PolicyConfig \x7b exclusions: [" ++
    String.intercalate ", " (policy.exclusions.map Pattern.shown) ++
    "], verbose: " ++ (if policy.verbose then "true" else "false") ++ " \x7d"

def shownShared (policy : Policy) : String :=
  "SharedPolicy \x7b inner: RwLock \x7b data: " ++ policy.shown ++
    ", poisoned: false, .. \x7d \x7d"

end Policy
end CompileOnLoad
