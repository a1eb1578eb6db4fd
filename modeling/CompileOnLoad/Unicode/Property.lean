import CompileOnLoad.Unicode.Age
import CompileOnLoad.Unicode.BinaryProperty
import CompileOnLoad.Unicode.Boundary
import CompileOnLoad.Unicode.CaseFolding
import CompileOnLoad.Unicode.GeneralCategory
import CompileOnLoad.Unicode.Script
import CompileOnLoad.Unicode.ScriptExtensions

/-!
# Character properties by name

A property is asked for by one name, which is a binary property, a general category or a
script, or by the name of a property and the name of one of its values.
-/

namespace CompileOnLoad
namespace Unicode

/-- Why a property has no characters to give: there is no property of that name, or the
property has no value of that name. -/
inductive PropertyError where
  | unknownProperty
  | unknownValue
  deriving DecidableEq, Repr

/-- Groups of general categories, with the names of their members. -/
def categoryGroups : List (List String × List String) := [
  (["c", "other"], ["cc", "cf", "cn", "co"]),
  (["l", "letter"], ["ll", "lm", "lo", "lt", "lu"]),
  (["lc", "casedletter"], ["ll", "lt", "lu"]),
  (["m", "mark", "combiningmark"], ["mc", "me", "mn"]),
  (["n", "number"], ["nd", "nl", "no"]),
  (["p", "punct", "punctuation"], ["pc", "pd", "pe", "pf", "pi", "po", "ps"]),
  (["s", "symbol"], ["sc", "sk", "sm", "so"]),
  (["z", "separator"], ["zl", "zp", "zs"])]

def otherProperties : List String := [
  "bc", "bidiclass", "bidimirroringglyph", "bidipairedbracket", "bidipairedbrackettype",
  "blk", "block", "bmg", "bpb", "bpt", "canonicalcombiningclass", "casefolding", "ccc",
  "ce", "cf", "changeswhennfkccasefolded", "cjkaccountingnumeric",
  "cjkcompatibilityvariant", "cjkiicore", "cjkirggsource", "cjkirghsource", "cjkirgjsource",
  "cjkirgkpsource", "cjkirgksource", "cjkirgmsource", "cjkirgssource", "cjkirgtsource",
  "cjkirguksource", "cjkirgusource", "cjkirgvsource", "cjkothernumeric",
  "cjkprimarynumeric", "cjkrsunicode", "compex", "compositionexclusion", "cwkcf",
  "decompositionmapping", "decompositiontype", "dm", "dt", "ea", "eastasianwidth",
  "equideo", "equivalentunifiedideograph", "expandsonnfc", "expandsonnfd", "expandsonnfkc",
  "expandsonnfkd", "fcnfkc", "fcnfkcclosure", "fullcompositionexclusion",
  "hangulsyllabletype", "hst", "idcompatmathcontinue", "idcompatmathstart", "idsu",
  "idsunaryoperator", "incb", "indicconjunctbreak", "indicpositionalcategory",
  "indicsyllabiccategory", "inpc", "insc", "isc", "isocomment", "jamoshortname", "jg",
  "joininggroup", "joiningtype", "jsn", "jt", "kaccountingnumeric", "kcompatibilityvariant",
  "kiicore", "kirggsource", "kirghsource", "kirgjsource", "kirgkpsource", "kirgksource",
  "kirgmsource", "kirgssource", "kirgtsource", "kirguksource", "kirgusource", "kirgvsource",
  "kothernumeric", "kprimarynumeric", "krsunicode", "lb", "lc", "linebreak",
  "lowercasemapping", "mcm", "modifiercombiningmark", "na", "na1", "name", "namealias",
  "nfcqc", "nfcquickcheck", "nfdqc", "nfdquickcheck", "nfkccasefold", "nfkccf", "nfkcqc",
  "nfkcquickcheck", "nfkcscf", "nfkcsimplecasefold", "nfkdqc", "nfkdquickcheck", "nt",
  "numerictype", "numericvalue", "nv", "scf", "sfc", "simplecasefolding",
  "simplelowercasemapping", "simpletitlecasemapping", "simpleuppercasemapping", "slc",
  "stc", "suc", "tc", "titlecasemapping", "uc", "unicode1name", "unicoderadicalstroke",
  "uppercasemapping", "urs", "verticalorientation", "vo", "xonfc", "xonfd", "xonfkc",
  "xonfkd"]

def category? (name : String) : Option (Except PropertyError CharSet) :=
  if name = "any" then some (.ok CharSet.all)
  else if name = "ascii" then some (.ok (CharSet.range 0 0x7F))
  else if name = "assigned" then
    some (.ok (CharSet.diff CharSet.all (Table.unionOf generalCategories ["cn"])))
  else
    match categoryGroups.find? (·.1.contains name) with
    | some group => some (.ok (Table.unionOf generalCategories group.2))
    | none =>
      (Table.find? generalCategories name).map fun t =>
        if t.names.contains "cs" then .error .unknownValue else .ok t.chars

def emptyScripts : List String :=
  ["zzzz", "unknown", "hrkt", "katakanaorhiragana"]

/-- The characters of a script, with those used in it in addition if `extended`. -/
def script? (name : String) (extended : Bool) : Option (Except PropertyError CharSet) :=
  if emptyScripts.contains name then some (.error .unknownValue)
  else
    (Table.find? scripts name).map fun t =>
      match extended, Table.find? scriptExtensionChanges name with
      | true, some change => .ok (t.chars.symmDiff change.chars)
      | _, _ => .ok t.chars

def age? (name : String) : Option CharSet :=
  if (Table.find? ages name).isNone then none
  else
    let later := (ages.dropWhile fun t => !t.names.contains name).drop 1
    let upTo := ages.take (ages.length - later.length)
    some (upTo.foldl (fun s t => s.union t.chars) CharSet.empty)

def charsNamed (name : String) : Except PropertyError CharSet :=
  let name := normalName name
  match Table.find? binaryProperties name with
  | some t => .ok t.chars
  | none =>
    match category? name with
    | some answer => answer
    | none => (script? name false).getD (.error .unknownProperty)

def charsWithValue (property value : String) : Except PropertyError CharSet :=
  let property := normalName property
  let value := normalName value
  let orUnknown (answer? : Option CharSet) : Except PropertyError CharSet :=
    match answer? with
    | some s => .ok s
    | none => .error .unknownValue
  if ["gc", "generalcategory"].contains property then
    (category? value).getD (.error .unknownValue)
  else if ["sc", "script"].contains property then
    (script? value false).getD (.error .unknownValue)
  else if ["scx", "scriptextensions"].contains property then
    (script? value true).getD (.error .unknownValue)
  else if property = "age" then orUnknown (age? value)
  else if ["gcb", "graphemeclusterbreak"].contains property then
    orUnknown ((Table.find? graphemeClusterBreaks value).map Table.chars)
  else if ["wb", "wordbreak"].contains property then
    orUnknown ((Table.find? wordBreaks value).map Table.chars)
  else if ["sb", "sentencebreak"].contains property then
    orUnknown ((Table.find? sentenceBreaks value).map Table.chars)
  else if
    (Table.find? binaryProperties property).isSome || otherProperties.contains property then
    .error .unknownValue
  else .error .unknownProperty

def wordChars : CharSet :=
  let named := ["alpha", "joinc"].filterMap (Table.find? binaryProperties)
  (named.map Table.chars).foldl CharSet.union
    (Table.unionOf generalCategories ["mn", "mc", "me", "nd", "pc"])

def digitChars : CharSet :=
  Table.unionOf generalCategories ["nd"]

def spaceChars : CharSet :=
  ((Table.find? binaryProperties "space").map Table.chars).getD CharSet.empty

/-- The classes of the characters that differ from a member of the set in case only, joined
to it. -/
def closeUnderCase (s : CharSet) : CharSet :=
  let met := caseClasses.filter fun members =>
    members.any fun n => CharSet.isInside s.changes n
  let missing := met.flatten.filter fun n => !CharSet.isInside s.changes n
  s.union (CharSet.ofRanges (missing.map fun n => (n, n)))

end Unicode
end CompileOnLoad
