import CompileOnLoad.Text.CharSet

/-!
# Tables of character properties

A table gives the characters that have one value of a property, under the names of that value.
Names are compared without case, blanks, hyphens, underscores and a leading `is`.
-/

namespace CompileOnLoad
namespace Unicode

structure Table where
  names : List String
  written : List String

namespace Table

def chars (t : Table) : CharSet :=
  CharSet.ofTable t.written

def find? (tables : List Table) (name : String) : Option Table :=
  tables.find? fun t => t.names.contains name

def unionOf (tables : List Table) (names : List String) : CharSet :=
  (names.filterMap (find? tables)).foldl (fun s t => s.union t.chars) CharSet.empty

end Table

/-- The form in which names are compared: ASCII in lower case, without blanks, hyphens,
underscores and a leading `is`.  Of `isc` the `is` is kept, because `c` alone names another
value. -/
def normalName (name : String) : String :=
  let squeeze (cs : List Char) : List Char :=
    (cs.filter fun c => c.toNat < 128 && c != ' ' && c != '_' && c != '-').map Char.toLower
  match name.toList with
  | a :: b :: rest =>
    if a.toLower = 'i' ∧ b.toLower = 's' then
      let body := squeeze rest
      if body = ['c'] then "isc" else String.ofList body
    else String.ofList (squeeze (a :: b :: rest))
  | short => String.ofList (squeeze short)

end Unicode
end CompileOnLoad
