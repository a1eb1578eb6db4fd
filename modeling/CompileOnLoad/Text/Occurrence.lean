/-!
# Occurrences of a text in another

The empty text occurs everywhere.
-/

namespace CompileOnLoad

def occursIn [BEq α] (needle : List α) : List α -> Bool
  | [] => needle.isEmpty
  | c :: rest => needle.isPrefixOf (c :: rest) || occursIn needle rest

theorem occursIn_iff_isInfix [BEq α] [LawfulBEq α] {needle list : List α} :
    occursIn needle list = true <-> needle <:+: list := by
  induction list with
  | nil => simp [occursIn]
  | cons c rest ih =>
      rw [occursIn, Bool.or_eq_true, ih, List.isPrefixOf_iff_prefix, List.infix_cons_iff]

def textContains (text needle : String) : Bool :=
  occursIn needle.toList text.toList

def textEndsWith (text suffix : String) : Bool :=
  suffix.toList.isSuffixOf text.toList

end CompileOnLoad
