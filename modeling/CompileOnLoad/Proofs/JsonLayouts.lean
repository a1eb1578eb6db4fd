import CompileOnLoad.Proofs.JsonGrammar

/-!
# Layouts

What the writers write for a value is one of its texts, in either layout: they escape what
may not stand in a text, and put nothing but white space between the parts of a value.
-/

namespace CompileOnLoad
namespace Json

variable {α β : Type}

/-!
# Written texts
-/

theorem isHexDigit_digitChar {n : Nat} (h : n < 16) : IsHexDigit (Nat.digitChar n) n := by
  have hall : forall n, n < 16 -> "0123456789abcdef".toList[n]? = some (Nat.digitChar n) := by
    decide
  exact .inl (hall n h)

theorem spells_control {c : Char} (h : c < ' ') : Spells (controlEscape c) c := by
  have hsmall : c.toNat < 32 := h
  have hnumber := IsHexNumber.digits (isHexDigit_digitChar (show 0 < 16 by decide))
    (isHexDigit_digitChar (show 0 < 16 by decide))
    (isHexDigit_digitChar (show c.toNat / 16 < 16 by omega))
    (isHexDigit_digitChar (show c.toNat % 16 < 16 by omega))
  have hvalue : ((0 * 16 + 0) * 16 + c.toNat / 16) * 16 + c.toNat % 16 = c.toNat := by omega
  rw [hvalue] at hnumber
  exact .code hnumber

theorem spells_escape (c : Char) : Spells (escape c) c := by
  fun_cases escape c with
  | case1 hc =>
      subst hc
      exact .short (by decide)
  | case2 _ hc =>
      subst hc
      exact .short (by decide)
  | case3 _ _ hc =>
      subst hc
      exact .short (by decide)
  | case4 _ _ _ hc =>
      subst hc
      exact .short (by decide)
  | case5 _ _ _ _ hc =>
      subst hc
      exact .short (by decide)
  | case6 _ _ _ _ _ hc =>
      subst hc
      exact .short (by decide)
  | case7 _ _ _ _ _ _ hc =>
      subst hc
      exact .short (by decide)
  | case8 _ _ _ _ _ _ _ hcontrol => exact spells_control hcontrol
  | case9 hquote hbackslash _ _ _ _ _ hcontrol =>
      exact .plain hquote hbackslash (Char.not_lt.mp hcontrol)

theorem isText_writeText (cs : List Char) : IsText (writeText cs) cs := by
  have hspells : SpellsAll (cs.flatMap escape) cs := by
    induction cs with
    | nil => exact .nil
    | cons c cs ih => exact .cons (spells_escape c) ih
  exact .quoted hspells

/-!
# Written items
-/

/-- Items between two brackets, with white space before each of them and after the last. -/
def enclosed (start stop : Char) (gap after : List Char) (items : List (List Char)) :
    List Char :=
  start :: gap ++ joined (',' :: gap) items ++ after ++ [stop]

variable {IsItem : List Char -> α -> Prop} {write : β -> List Char} {item : β -> α}
  {gap after : List Char}

theorem separated_joined (hgap : IsGap gap) (hafter : IsGap after) (b : β) (bs : List β)
    (h : forall b', b' ∈ b :: bs -> IsItem (write b') (item b')) :
    Separated IsItem (gap ++ joined (',' :: gap) ((b :: bs).map write) ++ after)
      ((b :: bs).map item) := by
  induction bs generalizing b with
  | nil => exact .last hgap (h b List.mem_cons_self) hafter
  | cons next bs ih =>
      rcases List.forall_mem_cons.mp h with ⟨hfirst, hlater⟩
      have hcons := Separated.cons hgap hfirst isGap_nil (ih next hlater)
      simp only [List.map_cons, joined, List.append_assoc, List.cons_append, List.nil_append]
        at hcons ⊢
      exact hcons

theorem isValue_enclosed_list (hgap : IsGap gap) (hafter : IsGap after) (bs : List β)
    {item : β -> Value} (h : forall b, b ∈ bs -> IsValue (write b) (item b)) :
    IsValue (enclosed '[' ']' gap after (bs.map write)) (.list (bs.map item)) := by
  cases bs with
  | nil =>
      rw [List.map_nil, enclosed, joined, List.append_nil]
      exact .emptyList (hgap.append hafter)
  | cons b bs => exact .list (separated_joined hgap hafter b bs h)

theorem isValue_enclosed_object (hgap : IsGap gap) (hafter : IsGap after) (bs : List β)
    {item : β -> List Char × Value}
    (h : forall b, b ∈ bs -> IsMember IsValue (write b) (item b)) :
    IsValue (enclosed '\x7b' '\x7d' gap after (bs.map write)) (.object (bs.map item)) := by
  cases bs with
  | nil =>
      rw [List.map_nil, enclosed, joined, List.append_nil]
      exact .emptyObject (hgap.append hafter)
  | cons b bs => exact .object (separated_joined hgap hafter b bs h)

/-!
# Layouts
-/

/-- The writer puts nothing but white space into the values that readers are for. -/
structure IsLayout (write : Value -> List Char) : Prop where
  null : write .null = writeNull
  boolean : forall b, write (.boolean b) = writeBoolean b
  text : forall cs, write (.text cs) = writeText cs
  texts : forall texts : List (List Char), exists gap after, IsGap gap ∧ IsGap after ∧
    write (.list (texts.map .text)) = enclosed '[' ']' gap after (texts.map writeText)

namespace IsLayout

variable {write : Value -> List Char}

theorem isValue_null (h : IsLayout write) : IsValue (write .null) .null := by
  rw [h.null]
  exact .null

theorem isValue_boolean (h : IsLayout write) (b : Bool) :
    IsValue (write (.boolean b)) (.boolean b) := by
  rw [h.boolean]
  cases b with
  | true => exact .yes
  | false => exact .no

theorem isValue_text (h : IsLayout write) (cs : List Char) :
    IsValue (write (.text cs)) (.text cs) := by
  rw [h.text]
  exact .text (isText_writeText cs)

theorem isValue_texts (h : IsLayout write) (texts : List (List Char)) :
    IsValue (write (.list (texts.map .text))) (.list (texts.map .text)) := by
  rcases h.texts texts with ⟨gap, after, hgap, hafter, hwrite⟩
  rw [hwrite]
  exact isValue_enclosed_list hgap hafter texts fun cs _ => .text (isText_writeText cs)

end IsLayout

theorem compactItems_eq_map (items : List Value) :
    Value.compactItems items = items.map Value.compact := by
  induction items with
  | nil => rfl
  | cons item items ih => rw [Value.compactItems, ih, List.map_cons]

theorem compactMembers_eq_map (members : List (List Char × Value)) :
    Value.compactMembers members =
      members.map fun (key, value) => writeText key ++ ':' :: value.compact := by
  induction members with
  | nil => rfl
  | cons member members ih => rw [Value.compactMembers, ih, List.map_cons]

theorem laidOutItems_eq_map (level : Nat) (items : List Value) :
    Value.laidOutItems level items = items.map (Value.laidOut level) := by
  induction items with
  | nil => rfl
  | cons item items ih => rw [Value.laidOutItems, ih, List.map_cons]

theorem laidOutMembers_eq_map (level : Nat) (members : List (List Char × Value)) :
    Value.laidOutMembers level members =
      members.map fun (key, value) => writeText key ++ ':' :: ' ' :: value.laidOut level := by
  induction members with
  | nil => rfl
  | cons member members ih => rw [Value.laidOutMembers, ih, List.map_cons]

theorem block_nil (level : Nat) (start stop : Char) :
    block level start stop [] = enclosed start stop [] [] [] := by
  rw [block, if_pos rfl]
  rfl

theorem block_of_ne_nil {level : Nat} {start stop : Char} {items : List (List Char)}
    (h : items ≠ []) :
    block level start stop items =
      enclosed start stop (newLine (level + 1)) (newLine level) items := by
  rw [block, if_neg h]
  rfl

theorem isLayout_compact : IsLayout Value.compact where
  null := by rw [Value.compact]
  boolean b := by rw [Value.compact]
  text cs := by rw [Value.compact]
  texts texts := by
    refine ⟨[], [], isGap_nil, isGap_nil, ?_⟩
    have hitems : (texts.map Value.text).map Value.compact = texts.map writeText := by
      simp only [List.map_map, Function.comp_def, Value.compact]
    rw [Value.compact, compactItems_eq_map, hitems, enclosed]
    simp only [List.append_nil, List.cons_append, List.nil_append]

theorem isLayout_laidOut (level : Nat) : IsLayout (Value.laidOut level) where
  null := by rw [Value.laidOut]
  boolean b := by rw [Value.laidOut]
  text cs := by rw [Value.laidOut]
  texts texts := by
    have hitems : (texts.map Value.text).map (Value.laidOut (level + 1)) =
      texts.map writeText := by
      simp only [List.map_map, Function.comp_def, Value.laidOut]
    rw [Value.laidOut, laidOutItems_eq_map, hitems]
    cases texts with
    | nil => exact ⟨[], [], isGap_nil, isGap_nil, block_nil level '[' ']'⟩
    | cons text texts =>
        exact ⟨newLine (level + 1), newLine level, isGap_newLine _, isGap_newLine _,
          block_of_ne_nil (List.cons_ne_nil _ _)⟩

end Json
end CompileOnLoad
