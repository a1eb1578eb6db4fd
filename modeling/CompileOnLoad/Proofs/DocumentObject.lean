import CompileOnLoad.Policy.Basic
import CompileOnLoad.Proofs.DocumentFields

/-!
# Policy documents as objects

A document that is given as an object is accepted exactly if its members are those of distinct
fields, each with a value that its field admits.  The members are read from the front, with
the fields that no earlier one has had; so whether the rest is well-formed is asked about
those fields, and one induction over the members says both what is accepted and which
document is read.
-/

namespace CompileOnLoad
namespace Document

open Json

/-!
# Members of fields
-/

abbrev Members : Type :=
  List (List Char × Value)

def Members.keys (members : Members) : List (List Char) :=
  members.map Prod.fst

/-- The members are those of distinct ones of the fields, with values that these admit. -/
structure WellFormed (fields : List Field) (members : Members) : Prop where
  known : forall key,
    key ∈ members.keys -> exists field, field ∈ fields ∧ field.name.toList = key
  distinct : members.keys.Nodup
  admitted : forall (field : Field) value,
    (field.name.toList, value) ∈ members -> field.Admits value

/-- The fields that have a member have its value, and the others have those that they have in
the first document. -/
def Given (members : Members) (base document : Document) : Prop :=
  forall field : Field,
    (forall value, (field.name.toList, value) ∈ members ->
      document.fieldValue? field = some value) ∧
    (field.name.toList ∉ members.keys -> document.fieldValue? field = base.fieldValue? field)

variable {fields : List Field} {members : Members} {field : Field} {key : List Char}
  {value : Value}

theorem mem_keys_of_mem (h : (key, value) ∈ members) : key ∈ members.keys :=
  List.mem_map_of_mem h

theorem exists_mem_of_mem_keys (h : key ∈ members.keys) :
    exists value, (key, value) ∈ members := by
  rcases List.mem_map.mp h with ⟨⟨_, value⟩, hmember, rfl⟩
  exact ⟨value, hmember⟩

theorem wellFormed_nil (fields : List Field) : WellFormed fields [] where
  known := by simp [Members.keys]
  distinct := List.nodup_nil
  admitted := by simp

/-- The first member is that of one of the fields, and the rest are those of the others. -/
theorem wellFormed_cons (hfields : fields.Nodup) :
    WellFormed fields ((key, value) :: members) <->
      exists field, field ∈ fields ∧ field.name.toList = key ∧ field.Admits value ∧
        WellFormed (fields.erase field) members := by
  constructor
  · intro h
    rcases h.known key List.mem_cons_self with ⟨field, hfield, rfl⟩
    rcases List.nodup_cons.mp h.distinct with ⟨hnew, hdistinct⟩
    refine ⟨field, hfield, rfl, h.admitted field value List.mem_cons_self, ?_, hdistinct, ?_⟩
    · intro key hkey
      rcases h.known key (List.mem_cons_of_mem _ hkey) with ⟨other, hother, rfl⟩
      have hne : other ≠ field := by
        rintro rfl
        exact hnew hkey
      exact ⟨other, (List.mem_erase_of_ne hne).mpr hother, rfl⟩
    · intro other value hmember
      exact h.admitted other value (List.mem_cons_of_mem _ hmember)
  · rintro ⟨field, hfield, rfl, hadmits, hrest⟩
    have hnew : field.name.toList ∉ members.keys := by
      intro hkey
      rcases hrest.known _ hkey with ⟨other, hother, hname⟩
      rw [Field.name_injective hname] at hother
      exact hfields.not_mem_erase hother
    refine ⟨?_, List.nodup_cons.mpr ⟨hnew, hrest.distinct⟩, ?_⟩
    · intro key hkey
      rcases List.mem_cons.mp hkey with rfl | hkey
      · exact ⟨field, hfield, rfl⟩
      · rcases hrest.known key hkey with ⟨other, hother, rfl⟩
        exact ⟨other, List.mem_of_mem_erase hother, rfl⟩
    · intro other value hmember
      rcases List.mem_cons.mp hmember with heq | hmember
      · rcases Prod.mk.inj heq with ⟨hname, rfl⟩
        rw [Field.name_injective hname]
        exact hadmits
      · exact hrest.admitted other value hmember

theorem WellFormed.perm {members' : Members} (h : WellFormed fields members)
    (hperm : members.Perm members') : WellFormed fields members' where
  known key hkey := h.known key ((hperm.map Prod.fst).mem_iff.mpr hkey)
  distinct := (hperm.map Prod.fst).nodup_iff.mp h.distinct
  admitted field value hmember := h.admitted field value (hperm.mem_iff.mpr hmember)

/-!
# What documents are given
-/

theorem given_nil (base : Document) : Given [] base base := by
  intro field
  constructor
  · intro value hmember
    cases hmember
  · intro _
    rfl

theorem given_cons {source base document : Document}
    (hvalue : source.fieldValue? field = some value) (hnew : field.name.toList ∉ members.keys)
    (h : Given members (source.copy base field) document) :
    Given ((field.name.toList, value) :: members) base document := by
  intro other
  by_cases hother : other = field
  · subst hother
    constructor
    · intro value' hmember
      rcases List.mem_cons.mp hmember with heq | hmember
      · rw [(Prod.mk.inj heq).2, (h other).2 hnew, fieldValue?_copy_self, hvalue]
      · exact absurd (mem_keys_of_mem hmember) hnew
    · intro hkey
      exact absurd List.mem_cons_self hkey
  · constructor
    · intro value' hmember
      rcases List.mem_cons.mp hmember with heq | hmember
      · exact absurd (Field.name_injective (Prod.mk.inj heq).1) hother
      · exact (h other).1 value' hmember
    · intro hkey
      rw [(h other).2 fun hlater => hkey (List.mem_cons_of_mem _ hlater),
        fieldValue?_copy_of_ne source base hother]

/-- What is not given is known from the first document, so only one document is given. -/
theorem Given.eq {base document document' : Document}
    (hbase : forall field, exists value, base.fieldValue? field = some value)
    (h : Given members base document) (h' : Given members base document') :
    document = document' := by
  have hvalues (field : Field) : exists value,
      document.fieldValue? field = some value ∧ document'.fieldValue? field = some value := by
    by_cases hkey : field.name.toList ∈ members.keys
    · rcases exists_mem_of_mem_keys hkey with ⟨value, hmember⟩
      exact ⟨value, (h field).1 value hmember, (h' field).1 value hmember⟩
    · rcases hbase field with ⟨value, hvalue⟩
      exact ⟨value, ((h field).2 hkey).trans hvalue, ((h' field).2 hkey).trans hvalue⟩
  have hcopy : document.copy = document'.copy := by
    funext target field
    rcases hvalues field with ⟨value, hvalue, hvalue'⟩
    exact copy_eq_of_fieldValue? hvalue hvalue' target
  rw [← foldl_copy document {}, hcopy, foldl_copy]

theorem Given.perm {members' : Members} {base document : Document}
    (h : Given members base document) (hperm : members.Perm members') :
    Given members' base document := by
  intro field
  constructor
  · intro value hmember
    exact (h field).1 value (hperm.mem_iff.mpr hmember)
  · intro hkey
    exact (h field).2 fun hmember => hkey ((hperm.map Prod.fst).mem_iff.mp hmember)

/-!
# Reading one member
-/

variable {written spelled gap before after more rest : List Char}

theorem nextKey_finished {gap : List Char} (hgap : IsGap gap) (first : Bool)
    (rest : List Char) : nextKey first (gap ++ '\x7d' :: rest) = .ok (.finished rest) := by
  rw [nextKey, skipSpace_gap_visible hgap rfl]
  rfl

theorem nextKey_lead (hgap : IsGap gap) (hbefore : IsGap before) (first : Bool)
    (cs : List Char) :
    nextKey first (gap ++ lead first (before ++ '"' :: cs)) = .ok (.item cs) := by
  unfold nextKey
  rw [skipSpace_lead hgap hbefore rfl]
  cases first with
  | true => rfl
  | false =>
      have hkey : skipSpace (before ++ '"' :: cs) = '"' :: cs :=
        skipSpace_gap_visible hbefore rfl cs
      simp [hkey]

theorem readColon_gap (hbefore : IsGap before) (cs : List Char) :
    readColon (before ++ ':' :: cs) = .ok cs := by
  rw [readColon, skipSpace_gap_visible hbefore rfl]
  rfl

theorem readKey_known (h : SpellsAll spelled field.name.toList) (hfield : field ∈ fields)
    (rest : List Char) :
    readKey fields (spelled ++ '"' :: rest) = .ok (⟨field, hfield⟩, rest) := by
  rw [readKey, readText_spelled h]
  simp only [String.ofList_toList, ofName?_name]
  rw [dif_pos hfield]

theorem readKey_unknown (h : SpellsAll spelled key)
    (hkey : forall field, field ∈ fields -> field.name.toList ≠ key) (rest : List Char) :
    exists fault, readKey fields (spelled ++ '"' :: rest) = .error fault := by
  rw [readKey, readText_spelled h]
  dsimp only
  split
  · exact ⟨_, rfl⟩
  · next field hname =>
      have hfield : field ∉ fields := by
        intro hfield
        have heq : field.name = String.ofList key := by
          simpa using List.find?_some hname
        apply hkey field hfield
        rw [heq, String.toList_ofList]
      rw [dif_neg hfield]
      exact ⟨_, rfl⟩

variable {space space' cs : List Char} {first : Bool} {base : Document}

/-- A member of a field with a value that it admits is read by copying the field. -/
theorem readMembers_admitted {source : Document}
    (hspelled : SpellsAll spelled field.name.toList)
    (hspace : IsGap space) (hspace' : IsGap space') (hwritten : IsValue written value)
    (hfield : field ∈ fields) (hvalue : source.fieldValue? field = some value)
    (h : nextKey first cs =
      .ok (.item (spelled ++ '"' :: (space ++ ':' :: (space' ++ written ++ more))))) :
    readMembers fields first base cs =
      readMembers (fields.erase field) false (source.copy base field) more := by
  rw [readMembers]
  simp only [h, readKey_known hspelled hfield, readColon_gap hspace, Except.bind,
    reads_isField hwritten hvalue base space' more hspace']

theorem readMembers_refused (hspelled : SpellsAll spelled key) (hspace : IsGap space)
    (hspace' : IsGap space') (hwritten : IsValue written value)
    (hmember : ¬ exists field, field ∈ fields ∧ field.name.toList = key ∧ field.Admits value)
    (h : nextKey first cs =
      .ok (.item (spelled ++ '"' :: (space ++ ':' :: (space' ++ written ++ more))))) :
    exists fault, readMembers fields first base cs = .error fault := by
  rw [readMembers]
  simp only [h]
  by_cases hkey : exists field, field ∈ fields ∧ field.name.toList = key
  · rcases hkey with ⟨field, hfield, rfl⟩
    have hvalue : ¬ field.Admits value := by
      intro hvalue
      exact hmember ⟨field, hfield, rfl, hvalue⟩
    rcases refuses_readField hwritten hvalue base space' more hspace' with ⟨fault, hfault⟩
    simp only [readKey_known hspelled hfield, readColon_gap hspace, Except.bind, hfault]
    exact ⟨fault, rfl⟩
  · have hunknown (field : Field) (hfield : field ∈ fields) : field.name.toList ≠ key := by
      intro hname
      exact hkey ⟨field, hfield, hname⟩
    rcases readKey_unknown hspelled hunknown
      (space ++ ':' :: (space' ++ written ++ more)) with
      ⟨fault, hfault⟩
    simp only [hfault]
    exact ⟨fault, rfl⟩

/-!
# Reading all members
-/

/-- Reading the members gives the document that is given by them, exactly if they are
well-formed. -/
def ReadsMembers (fields : List Field) (first : Bool) (base : Document) (cs : List Char)
    (members : Members) (rest : List Char) : Prop :=
  (WellFormed fields members -> exists document,
    Given members base document ∧ readMembers fields first base cs = .ok (document, rest)) ∧
  (¬ WellFormed fields members -> exists fault,
    readMembers fields first base cs = .error fault)

theorem readsMembers_end (hafter : IsGap after) (fields : List Field) (first : Bool)
    (base : Document) (rest : List Char) :
    ReadsMembers fields first base (after ++ '\x7d' :: rest) [] rest := by
  constructor
  · intro _
    refine ⟨base, given_nil base, ?_⟩
    rw [readMembers, nextKey_finished hafter]
  · intro h
    exact absurd (wellFormed_nil fields) h

/-- One member before others, which are read for the remaining fields. -/
theorem readsMembers_cons (hfields : fields.Nodup) (first : Bool) (base : Document)
    (hgap : IsGap gap) (hbefore : IsGap before)
    (hmember : IsMember IsValue written (key, value))
    (hmore : forall fields base, fields.Nodup ->
      ReadsMembers fields false base more members rest) :
    ReadsMembers fields first base (gap ++ lead first (before ++ written ++ more))
      ((key, value) :: members) rest := by
  cases hmember with
  | @member _ _ space space' written _ hkey hspace hspace' hwritten =>
  cases hkey with
  | @quoted spelled _ hspelled =>
  have hnext : nextKey first (gap ++ lead first
      (before ++ ('"' :: spelled ++ ['"'] ++ space ++ ':' :: space' ++ written) ++ more)) =
        .ok (.item (spelled ++ '"' :: (space ++ ':' :: (space' ++ written ++ more)))) := by
    simp only [List.append_assoc, List.cons_append, List.nil_append]
    exact nextKey_lead hgap hbefore first _
  constructor
  · intro h
    rcases (wellFormed_cons hfields).mp h with ⟨field, hfield, rfl, hadmits, hrest⟩
    rcases exists_source_of_admits hadmits with ⟨source, hsource⟩
    rcases (hmore (fields.erase field) (source.copy base field) (hfields.erase field)).1
      hrest with
      ⟨document, hgiven, hread⟩
    refine ⟨document, given_cons hsource (List.nodup_cons.mp h.distinct).1 hgiven, ?_⟩
    rw [readMembers_admitted hspelled hspace hspace' hwritten hfield hsource hnext]
    exact hread
  · intro h
    by_cases hmember : exists field, field ∈ fields ∧ field.name.toList = key ∧
      field.Admits value
    · rcases hmember with ⟨field, hfield, rfl, hadmits⟩
      rcases exists_source_of_admits hadmits with ⟨source, hsource⟩
      rw [readMembers_admitted hspelled hspace hspace' hwritten hfield hsource hnext]
      apply (hmore (fields.erase field) (source.copy base field) (hfields.erase field)).2
      intro hrest
      exact h ((wellFormed_cons hfields).mpr ⟨field, hfield, rfl, hadmits, hrest⟩)
    · exact readMembers_refused hspelled hspace hspace' hwritten hmember hnext

theorem readsMembers_separated {body : List Char}
    (h : Separated (IsMember IsValue) body members) (hfields : fields.Nodup)
    (hgap : IsGap gap) (first : Bool) (base : Document) (rest : List Char) :
    ReadsMembers fields first base
      (gap ++ lead first (body ++ '\x7d' :: rest)) members rest := by
  induction h generalizing fields first base gap with
  | last hbefore hmember hafter =>
      have hread := readsMembers_cons hfields first base hgap hbefore hmember
        fun fields base _ => readsMembers_end hafter fields false base rest
      rw [← List.append_assoc] at hread
      exact hread
  | cons hbefore hmember hafter hrest ih =>
      have hread := readsMembers_cons hfields first base hgap hbefore hmember
        fun fields base hfields => ih hfields hafter false base
      rw [← List.append_assoc] at hread
      rw [List.append_assoc]
      exact hread

/-!
# Whole documents
-/

theorem readBody_object (h : IsValue written (.object members)) (hgap : IsGap gap)
    (rest : List Char) :
    exists cs, readBody (gap ++ written ++ rest) = readMembers Field.all true {} cs ∧
      ReadsMembers Field.all true {} cs members rest := by
  have hread (cs : List Char) : readBody (gap ++ ('\x7b' :: cs ++ ['\x7d']) ++ rest) =
      readMembers Field.all true {} (cs ++ '\x7d' :: rest) := by
    simp only [List.append_assoc, List.cons_append, List.nil_append]
    rw [readBody, skipSpace_gap_visible hgap rfl]
    rfl
  cases h with
  | emptyObject h => exact ⟨_, hread _, readsMembers_end h _ true {} rest⟩
  | object h =>
      exact ⟨_, hread _, readsMembers_separated h (by decide) isGap_nil true {} rest⟩

variable {text : String}

theorem ofText_object (h : IsJson text (.object members)) :
    (WellFormed Field.all members ->
      exists document, Given members {} document ∧ ofText text = .ok document) ∧
    (¬ WellFormed Field.all members -> exists message, ofText text = .error message) := by
  cases h with
  | @surrounded before written after _ hbefore hvalue hafter =>
  rcases readBody_object hvalue hbefore after with ⟨cs, hbody, hread⟩
  have hend : skipSpace after = [] := by
    have hskip := skipSpace_gap hafter []
    rw [List.append_nil] at hskip
    exact hskip
  rw [ofText, String.toList_ofList, read, hbody]
  constructor
  · intro hmembers
    rcases hread.1 hmembers with ⟨document, hgiven, hdocument⟩
    refine ⟨document, hgiven, ?_⟩
    simp only [hdocument, hend]
    rfl
  · intro hmembers
    rcases hread.2 hmembers with ⟨fault, hfault⟩
    simp only [hfault]
    exact ⟨_, rfl⟩

theorem policy_ofText_object (h : IsJson text (.object members)) (policy : Policy) :
    Policy.ofText text = .ok policy <->
      WellFormed Field.all members ∧
        exists document, Given members {} document ∧ Policy.ofDocument document = policy := by
  rcases ofText_object h with ⟨haccepted, hrefused⟩
  by_cases hmembers : WellFormed Field.all members
  · rcases haccepted hmembers with ⟨document, hgiven, hread⟩
    rw [Policy.ofText, hread]
    constructor
    · intro hpolicy
      injection hpolicy with hpolicy
      exact ⟨hmembers, document, hgiven, hpolicy⟩
    · rintro ⟨_, document', hgiven', rfl⟩
      rw [hgiven.eq exists_fieldValue?_default hgiven']
  · rcases hrefused hmembers with ⟨message, hread⟩
    rw [Policy.ofText, hread]
    constructor
    · intro hpolicy
      cases hpolicy
    · rintro ⟨h, _⟩
      exact absurd h hmembers

/-- A text that is an object is accepted exactly if its members are those of distinct fields,
with values that these admit.  Its policy is that of the only document in which the fields
that have a member are given its value and the others have their defaults; else the fault
is one of the text, and names no file.  Texts whose members differ in their order alone are
accepted alike, whatever their white space and however their characters are spelled. -/
theorem object_accepted_iff_wellFormed (h : IsJson text (.object members)) :
    ((exists policy, Policy.ofText text = .ok policy) <-> WellFormed Field.all members) ∧
    (WellFormed Field.all members ->
      exists document, Given members {} document ∧
        (forall other, Given members {} other -> other = document) ∧
        Policy.ofText text = .ok (Policy.ofDocument document)) ∧
    (¬ WellFormed Field.all members ->
      exists message, Policy.ofText text = .error (.parse none message)) ∧
    forall text' members', IsJson text' (.object members') -> members.Perm members' ->
      forall policy, Policy.ofText text = .ok policy <->
      Policy.ofText text' = .ok policy := by
  rcases ofText_object h with ⟨haccepted, hrefused⟩
  refine ⟨⟨?_, ?_⟩, ?_, ?_, ?_⟩
  · rintro ⟨policy, hpolicy⟩
    exact ((policy_ofText_object h policy).mp hpolicy).1
  · intro hmembers
    rcases haccepted hmembers with ⟨document, _, hread⟩
    exact ⟨Policy.ofDocument document, by rw [Policy.ofText, hread]⟩
  · intro hmembers
    rcases haccepted hmembers with ⟨document, hgiven, hread⟩
    refine ⟨document, hgiven, ?_, by rw [Policy.ofText, hread]⟩
    intro other hother
    exact hother.eq exists_fieldValue?_default hgiven
  · intro hmembers
    rcases hrefused hmembers with ⟨message, hread⟩
    exact ⟨message, by rw [Policy.ofText, hread]⟩
  · intro text' members' h' hperm policy
    rw [policy_ofText_object h, policy_ofText_object h']
    constructor
    · rintro ⟨hmembers, document, hgiven, hpolicy⟩
      exact ⟨hmembers.perm hperm, document, hgiven.perm hperm, hpolicy⟩
    · rintro ⟨hmembers, document, hgiven, hpolicy⟩
      exact ⟨hmembers.perm hperm.symm, document, hgiven.perm hperm.symm, hpolicy⟩

/-!
# Two texts of one document
-/

def sparse : Members :=
  [("verbose".toList, .boolean false), ("bootstrap_file".toList, .null)]

def sparseText : String :=
  "\x7b\"verbose\":false,\"bootstrap_file\":null\x7d"

def spacedText : String :=
  "\x7b \"bootstrap_file\" : null,\"\\u0076erbose\":false \x7d\n"

theorem isJson_sparseText : IsJson sparseText (.object sparse) :=
  IsJson.of_toList isGap_nil
    (.object
      (.cons isGap_nil
        (.member (.quoted (spellsAll_self (by decide))) isGap_nil isGap_nil .no) isGap_nil
        (.last isGap_nil
          (.member (.quoted (spellsAll_self (by decide))) isGap_nil isGap_nil .null)
            isGap_nil)))
    isGap_nil (by decide)

theorem spellsAll_verbose : SpellsAll "\\u0076erbose".toList "verbose".toList := by
  have hnumber : IsHexNumber "0076".toList (((0 * 16 + 0) * 16 + 7) * 16 + 6) :=
    .digits (.inl rfl) (.inl rfl) (.inl rfl) (.inl rfl)
  have hfirst : Spells "\\u0076".toList 'v' := .code hnumber
  have hlater : SpellsAll "erbose".toList "erbose".toList := spellsAll_self (by decide)
  exact .cons hfirst hlater

theorem isJson_spacedText : IsJson spacedText (.object sparse.reverse) :=
  IsJson.of_toList isGap_nil
    (.object
      (.cons isGap_space
        (.member (.quoted (spellsAll_self (by decide))) isGap_space isGap_space .null)
          isGap_nil
        (.last isGap_nil
          (.member (.quoted spellsAll_verbose) isGap_nil isGap_nil .no) isGap_space)))
    (isGap_newLine 0) (by decide)

theorem wellFormed_sparse : WellFormed Field.all sparse :=
  (wellFormed_cons (by decide)).mpr ⟨.verbose, by decide, rfl, ⟨false, rfl⟩,
    (wellFormed_cons (by decide)).mpr ⟨.bootstrapFile, by decide, rfl, .inl rfl,
      wellFormed_nil _⟩⟩

theorem given_sparse : Given sparse {} { verbose := false } := by
  have hverbose : ({ verbose := false } : Document).fieldValue? .verbose =
      some (.boolean false) := rfl
  have hfile : ({} : Document).fieldValue? .bootstrapFile = some .null := rfl
  exact given_cons hverbose (by decide) (given_cons hfile (by decide) (given_nil _))

theorem object_accepted_iff_wellFormed_sparse :
    IsJson sparseText (.object sparse) ∧ IsJson spacedText (.object sparse.reverse) ∧
      Policy.ofText sparseText = .ok (Policy.ofDocument { verbose := false }) ∧
      Policy.ofText spacedText = .ok (Policy.ofDocument { verbose := false }) := by
  rcases object_accepted_iff_wellFormed isJson_sparseText with ⟨_, haccepted, _, halike⟩
  rcases haccepted wellFormed_sparse with ⟨document, _, honly, hread⟩
  rw [← honly _ given_sparse] at hread
  exact ⟨isJson_sparseText, isJson_spacedText, hread,
    (halike _ _ isJson_spacedText sparse.reverse_perm.symm _).mp hread⟩

end Document
end CompileOnLoad
