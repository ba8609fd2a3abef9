import Mathlib.Tactic.ByContra
import VaultLocator.Gateway
import VaultLocator.Proofs.Extraction.NativeLookup

/-!
# When the way to a value does not matter

A gateway to a vault has a locator of a field looked up natively, and walks to the place in the
record itself only if the vault refuses the reference as ambiguous. So a record that has nothing to
do with the place – a second one with the same title – decides which way is taken. A lookup that
finds nothing is final: the walk is not tried after it.

For a vault in memory that does not fail, `VaultLocator.Gateway.answer_agrees_iff` says exactly
when this can be seen. With several records behind the reference the answer is that of the walk in
the selected record. With one record behind it the answer is the same, unless the two ways
*diverge* there (`VaultLocator.Extraction.Diverges`): the walk also looks for other labels and in
the other list of fields, takes the first element for one past the end, and knows the parts of a
value that are not in its raw form; the native lookup knows the parts of scalars.
-/

namespace VaultLocator

/-! ### Where the two ways part -/

namespace Extraction

open InMemoryVault (elements selectValues nativeField? lookupIn)

/-- The walk finds a value at the place. -/
def Reaches (strict unmask : Bool) (r : Record) (l : Locator) : Prop :=
  ∃ value, valueAt strict r l unmask = .ok value

/-- **Where a native lookup and the walk diverge** in a record. In the first three cases the walk
finds a value and the lookup finds nothing; in the last it is the other way round. -/
inductive Diverges (strict unmask : Bool) (r : Record) (l : Locator) : Prop
  /-- No standard field has the type, or no custom field has the label or the type, but the walk
  finds a field of the name elsewhere. -/
  | otherField : nativeField? r l.target = none → Reaches strict unmask r l →
      Diverges strict unmask r l
  /-- The index is past the end, where the walk falls back to the first value. -/
  | pastEnd {field : StoredField} {selector : Selector} {index : UInt64} :
      nativeField? r l.target = some field → l.selector? = some selector →
      selector.index = some index → field.values.length ≤ index.toNat → strict = false →
      Reaches strict unmask r l → Diverges strict unmask r l
  /-- The first of the values at the index has no member of the name of the property, but the
  decoded value has such a part: a list that is empty if it is not there, or a part of a later
  entry, the first value being no object. -/
  | decodedPart {field : StoredField} {selector : Selector} {property : String} {first : Json}
      {rest : List Json} : nativeField? r l.target = some field → l.selector? = some selector →
      selector.property = some property → elements selector field.values = first :: rest →
      first.member? property = none → Reaches strict unmask r l → Diverges strict unmask r l
  /-- The field is a scalar, and its first value at the index is an object with a member of the
  name of the property that is not null. -/
  | scalarPart {field : StoredField} {selector : Selector} {property : String} {first member : Json}
      {rest : List Json} : nativeField? r l.target = some field → l.selector? = some selector →
      Shape.ofType field.fieldType = .scalar → selector.property = some property →
      elements selector field.values = first :: rest → first.member? property = some member →
      member ≠ .null → Diverges strict unmask r l

/-- The same value, or nothing at the place in both cases, whatever the reports call it. -/
def SameAnswer (result result' : Except Error ShownValue) : Prop :=
  (∃ value, result = .ok value ∧ result' = .ok value) ∨
    ∃ what what', result = .error (.fieldNotFound what) ∧
      result' = .error (.fieldNotFound what')

theorem sameAnswer_self_of_valueAt {l : Locator} (h : l.kind ≠ .file) (strict : Bool) (r : Record)
    (unmask : Bool) : SameAnswer (valueAt strict r l unmask) (valueAt strict r l unmask) := by
  cases hvalue : valueAt strict r l unmask with
  | ok value => exact Or.inl ⟨value, rfl, rfl⟩
  | error e =>
    obtain ⟨what, rfl⟩ := exists_fieldNotFound_of_valueAt h hvalue
    exact Or.inr ⟨what, what, rfl, rfl⟩

/-- Where the other way finds nothing, the answers are the same if the walk finds nothing either. -/
theorem sameAnswer_fieldNotFound_iff {l : Locator} (h : l.kind ≠ .file) {strict unmask : Bool}
    {r : Record} {what : String} :
    SameAnswer (.error (.fieldNotFound what)) (valueAt strict r l unmask) ↔
      ¬Reaches strict unmask r l := by
  constructor
  · rintro (⟨value, hvalue, -⟩ | ⟨_, _, -, herror⟩) ⟨value', hvalue'⟩
    · cases hvalue
    · rw [herror] at hvalue'
      cases hvalue'
  · intro hreach
    cases hvalue : valueAt strict r l unmask with
    | ok value => exact absurd ⟨value, hvalue⟩ hreach
    | error e =>
      obtain ⟨what', rfl⟩ := exists_fieldNotFound_of_valueAt h hvalue
      exact Or.inr ⟨what, what', rfl, rfl⟩

theorem exists_selector_of_kind {l : Locator} (h : l.kind ≠ .file) :
    ∃ selector, l.selector? = some selector := by
  obtain ⟨reference, target⟩ := l
  cases target with
  | field selector => exact ⟨selector, rfl⟩
  | customField selector => exact ⟨selector, rfl⟩
  | file name => exact absurd rfl h

/-- Where a lookup takes a field, the walk takes it too. -/
theorem valueAt_of_nativeField? {r : Record} {l : Locator} {field : StoredField}
    {selector : Selector} (hfield : nativeField? r l.target = some field)
    (hselector : l.selector? = some selector) (strict unmask : Bool) :
    valueAt strict r l unmask = pick strict (some field) selector unmask := by
  rw [valueAt_eq_pick hselector, fieldAt?_of_nativeField? hfield]

/-- The walk finds nothing in a field without values. -/
theorem values_ne_nil_of_pick {strict : Bool} {field : StoredField} {selector : Selector}
    {unmask : Bool} {value : ShownValue}
    (h : pick strict (some field) selector unmask = .ok value) : field.values ≠ [] := by
  intro hvalues
  obtain ⟨values, hselected, decoded, hdecode, -⟩ := pick_eq_ok_iff.mp h
  have hnil : values = [] := by
    rw [hvalues, selectedValues] at hselected
    cases hindex : selector.index with
    | none =>
      simp only [hindex] at hselected
      cases hselected
      rfl
    | some index =>
      simp only [hindex, List.getElem?_nil] at hselected
      split at hselected
      · cases hselected
      · cases hselected
        rfl
  rw [hnil] at hdecode
  cases hdecode

/-- The walk finds something past the end only if indices are not strict. -/
theorem strict_eq_false_of_pick {strict : Bool} {field : StoredField} {selector : Selector}
    {unmask : Bool} {value : ShownValue} {index : UInt64} (hindex : selector.index = some index)
    (hend : field.values[index.toNat]? = none)
    (h : pick strict (some field) selector unmask = .ok value) : strict = false := by
  obtain ⟨values, hselected, -⟩ := pick_eq_ok_iff.mp h
  simp only [selectedValues, hindex, hend] at hselected
  cases strict with
  | false => rfl
  | true => cases hselected

/-- **What a lookup misses and the walk finds**: one of the first three ways to diverge. -/
theorem diverges_iff_of_not_found {l : Locator} (h : l.kind ≠ .file) {strict unmask : Bool}
    {r : Record} {text : String} (hmiss : ∀ found, lookupIn text l r ≠ .ok found) :
    Diverges strict unmask r l ↔ Reaches strict unmask r l := by
  obtain ⟨selector, hselector⟩ := exists_selector_of_kind h
  -- The lookup misses because it takes nothing from the field, if there is one.
  have hnil : ∀ field, nativeField? r l.target = some field →
      selectValues selector field.values = [] := fun field hfield => by
    by_contra hne
    exact hmiss _ (InMemoryVault.lookupIn_eq_ok_iff.mpr
      ⟨field, selector, hfield, hselector, hne, rfl⟩)
  constructor
  · rintro (⟨-, hreach⟩ | ⟨-, -, -, -, -, hreach⟩ | ⟨-, -, -, -, -, hreach⟩ |
      ⟨hfield, hselector', -, hproperty, helements, hmember, -⟩)
    · exact hreach
    · exact hreach
    · exact hreach
    · obtain rfl := Option.some.inj (hselector'.symm.trans hselector)
      have hselect := hnil _ hfield
      rw [InMemoryVault.selectValues_of_property_some hproperty, helements, List.head?_cons,
        Option.bind_some, hmember] at hselect
      cases hselect
  · intro hreach
    cases hfield : nativeField? r l.target with
    | none => exact .otherField hfield hreach
    | some field =>
      have hselect := hnil field hfield
      obtain ⟨value, hvalue⟩ := hreach
      have hpick := hvalue
      rw [valueAt_of_nativeField? hfield hselector] at hpick
      cases helements : elements selector field.values with
      | nil =>
        cases hindex : selector.index with
        | none =>
          simp only [elements, hindex] at helements
          exact absurd helements (values_ne_nil_of_pick hpick)
        | some index =>
          simp only [elements, hindex, Option.toList_eq_nil_iff] at helements
          exact .pastEnd hfield hselector hindex (List.getElem?_eq_none_iff.mp helements)
            (strict_eq_false_of_pick hindex helements hpick) ⟨value, hvalue⟩
      | cons first rest =>
        cases hproperty : selector.property with
        | none =>
          rw [InMemoryVault.selectValues_of_property_none hproperty, helements] at hselect
          cases hselect
        | some property =>
          rw [InMemoryVault.selectValues_of_property_some hproperty, helements, List.head?_cons,
            Option.bind_some, Option.toList_eq_nil_iff] at hselect
          exact .decodedPart hfield hselector hproperty helements hselect ⟨value, hvalue⟩

/-- The walk finds no part of a scalar. -/
theorem not_reaches_of_scalar {r : Record} {l : Locator} {field : StoredField}
    {selector : Selector} {property : String} (hfield : nativeField? r l.target = some field)
    (hselector : l.selector? = some selector) (hshape : Shape.ofType field.fieldType = .scalar)
    (hproperty : selector.property = some property) (strict unmask : Bool) :
    ¬Reaches strict unmask r l := by
  rintro ⟨value, hvalue⟩
  rw [valueAt_of_nativeField? hfield hselector, pick_eq_ok_iff] at hvalue
  obtain ⟨values, -, decoded, hdecode, hproject⟩ := hvalue
  have hpart := ShownValue.part?_eq_none_of_scalar hshape hdecode property
  simp only [project, hproperty, hpart] at hproject
  cases hproject

/-- A part of a scalar that a vault found is shown, unless it is null. -/
theorem scalarPart_eq {selector : Selector} {property : String} {found : FoundField}
    {unmask : Bool} {first : Json} :
    (first = .null ∧
        scalarPart selector property found unmask first = .error (.fieldNotFound selector.name)) ∨
      (first ≠ .null ∧
        ∃ value, scalarPart selector property found unmask first = .ok value) := by
  cases first with
  | null => exact Or.inl ⟨rfl, rfl⟩
  | bool b => exact Or.inr ⟨Json.noConfusion, _, rfl⟩
  | num n => exact Or.inr ⟨Json.noConfusion, _, rfl⟩
  | str s => exact Or.inr ⟨Json.noConfusion, _, rfl⟩
  | arr items => exact Or.inr ⟨Json.noConfusion, _, rfl⟩
  | obj members => exact Or.inr ⟨Json.noConfusion, _, rfl⟩

/-- Where a lookup finds something, only parts of scalars can diverge. -/
theorem diverges_iff_of_found {strict unmask : Bool} {r : Record} {l : Locator}
    {field : StoredField} {selector : Selector} (hfield : nativeField? r l.target = some field)
    (hselector : l.selector? = some selector) (hvalues : selectValues selector field.values ≠ []) :
    Diverges strict unmask r l ↔ Shape.ofType field.fieldType = .scalar ∧
      ∃ property member, selector.property = some property ∧ member ≠ .null ∧
        selectValues selector field.values = [member] := by
  constructor
  · rintro (⟨hnone, -⟩ | ⟨hfield', hselector', hindex, hend, -, -⟩ |
      ⟨hfield', hselector', hproperty, helements, hmember, -⟩ |
      ⟨hfield', hselector', hshape, hproperty, helements, hmember, hnull⟩)
    · rw [hnone] at hfield
      cases hfield
    · obtain rfl := Option.some.inj (hfield'.symm.trans hfield)
      obtain rfl := Option.some.inj (hselector'.symm.trans hselector)
      refine absurd (InMemoryVault.selectValues_of_elements_nil ?_) hvalues
      simp only [elements, hindex, List.getElem?_eq_none hend, Option.toList_none]
    · obtain rfl := Option.some.inj (hfield'.symm.trans hfield)
      obtain rfl := Option.some.inj (hselector'.symm.trans hselector)
      rw [InMemoryVault.selectValues_of_property_some hproperty, helements, List.head?_cons,
        Option.bind_some, hmember] at hvalues
      exact absurd rfl hvalues
    · obtain rfl := Option.some.inj (hfield'.symm.trans hfield)
      obtain rfl := Option.some.inj (hselector'.symm.trans hselector)
      refine ⟨hshape, _, _, hproperty, hnull, ?_⟩
      rw [InMemoryVault.selectValues_of_property_some hproperty, helements, List.head?_cons,
        Option.bind_some, hmember, Option.toList_some]
  · rintro ⟨hshape, property, member, hproperty, hnull, hselect⟩
    obtain ⟨members, rest, member', helements, hmember, hselect'⟩ :=
      InMemoryVault.exists_member_of_selectValues hproperty hvalues
    obtain rfl : member = member' := by
      rw [hselect] at hselect'
      exact List.head_eq_of_cons_eq hselect'
    exact .scalarPart hfield hselector hshape hproperty helements hmember hnull

/-- **What a lookup finds and the walk does not**: a part of a scalar. -/
theorem sameAnswer_valueFound_iff {l : Locator} (h : l.kind ≠ .file) {strict unmask : Bool}
    {r : Record} {text : String} {found : FoundField} (hfound : lookupIn text l r = .ok found) :
    SameAnswer (valueFound l found unmask) (valueAt strict r l unmask) ↔
      ¬Diverges strict unmask r l := by
  obtain ⟨field, selector, hfield, hselector, hvalues, rfl⟩ :=
    InMemoryVault.lookupIn_eq_ok_iff.mp hfound
  rw [diverges_iff_of_found hfield hselector hvalues]
  by_cases hshape : Shape.ofType field.fieldType = .scalar ∧ selector.property.isSome
  · -- A part of a scalar: the vault has it, and the walk finds nothing.
    obtain ⟨hscalar, hsome⟩ := hshape
    obtain ⟨property, hproperty⟩ := Option.isSome_iff_exists.mp hsome
    obtain ⟨members, rest, member, -, -, hselect⟩ :=
      InMemoryVault.exists_member_of_selectValues hproperty hvalues
    have hreach : ¬Reaches strict unmask r l :=
      not_reaches_of_scalar hfield hselector hscalar hproperty strict unmask
    simp only [valueFound_of_selector? hselector, hproperty, foundPart, hselect, if_pos hscalar]
    rcases @scalarPart_eq selector property
        ⟨field.fieldType, field.effectiveLabel, [member]⟩ unmask member with
      ⟨rfl, hmiss⟩ | ⟨hnull, value, hvalue⟩
    · rw [hmiss, sameAnswer_fieldNotFound_iff h]
      refine iff_of_true hreach ?_
      rintro ⟨-, _, _, -, hnull, hhead⟩
      exact hnull (List.head_eq_of_cons_eq hhead).symm
    · rw [hvalue]
      refine iff_of_false ?_ (not_not_intro ⟨hscalar, property, member, rfl, hnull, rfl⟩)
      rintro (⟨value', -, hwalk⟩ | ⟨_, _, herror, -⟩)
      · exact hreach ⟨value', hwalk⟩
      · cases herror
  · -- Otherwise both ways come to the same result.
    have hshape' : Shape.ofType field.fieldType ≠ .scalar ∨ selector.property = none := by
      rcases not_and_or.mp hshape with hscalar | hsome
      · exact Or.inl hscalar
      · exact Or.inr (Option.not_isSome_iff_eq_none.mp hsome)
    refine iff_of_true ?_ ?_
    · rw [valueFound_eq_pick hselector hvalues hshape' strict,
        ← valueAt_of_nativeField? hfield hselector]
      exact sameAnswer_self_of_valueAt h strict r unmask
    · rintro ⟨hscalar, property, _, hproperty, -, -⟩
      exact hshape ⟨hscalar, by rw [hproperty]; rfl⟩

end Extraction

namespace Gateway

open Extraction (valueAt valueFound SameAnswer Diverges)
open InMemoryVault (lookupIn)

/-! ### The record that is selected -/

/-- A record with the uid is named by it. -/
theorem names_of_uid? {reference : Reference} {r : Record} (h : reference.uid? = some r.uid) :
    reference.names r = true := by
  cases reference with
  | uid text =>
    obtain rfl := Option.some.inj h
    simp [Reference.names]
  | title text => cases h

/-- The selected record is one of those that the reference names. -/
theorem mem_filter_of_selectRecord? {reference : Reference} {records : List Record} {r : Record}
    (h : selectRecord? reference records = some r) : r ∈ records.filter reference.names := by
  rw [selectRecord?, Option.or_eq_some_iff] at h
  rw [List.mem_filter]
  rcases h with huid | ⟨-, hnames⟩
  · have hbeq := List.find?_some huid
    exact ⟨List.mem_of_find?_eq_some huid, names_of_uid? (beq_iff_eq.mp hbeq)⟩
  · exact ⟨List.mem_of_find?_eq_some hnames, List.find?_some hnames⟩

/-- If a record is named at all, one is selected. -/
theorem exists_selectRecord? {reference : Reference} {records : List Record}
    (h : ∃ r ∈ records, reference.names r = true) :
    ∃ r, selectRecord? reference records = some r := by
  have hsome : (records.find? fun record => reference.names record).isSome := List.find?_isSome.mpr h
  rw [← Option.isSome_iff_exists, selectRecord?, Option.isSome_or, hsome, Bool.or_true]

/-- Later records change the selection only if one of them has the uid and the selected record has
another. -/
theorem selectRecord?_append {reference : Reference} {records later : List Record} {r : Record}
    (h : selectRecord? reference records = some r)
    (hlater : reference.uid? = some r.uid ∨ ∀ r' ∈ later, reference.uid? ≠ some r'.uid) :
    selectRecord? reference (records ++ later) = some r := by
  have hmem : r ∈ records := (List.mem_filter.mp (mem_filter_of_selectRecord? h)).1
  rw [selectRecord?, Option.or_eq_some_iff] at h
  rw [selectRecord?, List.find?_append, List.find?_append]
  rcases h with huid | ⟨hnone, hnames⟩
  · rw [huid]
    rfl
  · -- No earlier record has the uid, so no later one may have it.
    have hnot : ∀ r' ∈ later, reference.uid? ≠ some r'.uid := by
      refine hlater.resolve_left fun huid => List.find?_eq_none.mp hnone r hmem ?_
      exact beq_iff_eq.mpr huid
    have hlaterNone : (later.find? fun record => reference.uid? == some record.uid) = none :=
      List.find?_eq_none.mpr fun r' hr' => by simpa using hnot r' hr'
    rw [hnone, hlaterNone, hnames]
    rfl

/-! ### Answers from a vault in memory -/

/-- What a gateway to a vault in memory answers, after some earlier lookups. -/
def answer (records : List Record) (settings : AccessSettings) (text : String) (unmask : Bool)
    (calls : List String) : Except Error ShownValue :=
  (resolve ⟨(InMemoryVault.mk records none).toVault, settings⟩ text unmask calls).result

section Answer

variable {records : List Record} {text : String} {l : Locator} {r : Record}

/-- The answer is what is made of the lookup, or the value among the records if it is refused. -/
theorem answer_eq (hscreen : Screening.checkLocator text = .ok ())
    (hparse : Locator.parse text = .ok l) (hkind : l.kind ≠ .file) (settings : AccessSettings)
    (unmask : Bool) (calls : List String) :
    answer records settings text unmask calls =
      match (InMemoryVault.mk records none).lookup text with
      | .ok found => valueFound l found unmask
      | .error (.ambiguous _) => resolveAmong settings.strictIndex l unmask records
      | .error e => .error (.ofLookup e) := by
  simp only [answer, resolve, audited, resolveText, hscreen, hparse, resolveLocator, if_neg hkind,
    InMemoryVault.toVault]
  cases (InMemoryVault.mk records none).lookup text with
  | ok found => rfl
  | error e => cases e <;> rfl

/-- One record is named, and the vault finds something in it. -/
theorem answer_of_found (hscreen : Screening.checkLocator text = .ok ())
    (hparse : Locator.parse text = .ok l) (hkind : l.kind ≠ .file)
    (hsingle : records.filter l.reference.names = [r]) {found : FoundField}
    (hfound : lookupIn text l r = .ok found) (settings : AccessSettings) (unmask : Bool)
    (calls : List String) :
    answer records settings text unmask calls = valueFound l found unmask := by
  rw [answer_eq hscreen hparse hkind, InMemoryVault.lookup_of_single rfl hparse hsingle, hfound]

/-- One record is named, and the vault finds nothing in it. -/
theorem answer_of_not_found (hscreen : Screening.checkLocator text = .ok ())
    (hparse : Locator.parse text = .ok l) (hkind : l.kind ≠ .file)
    (hsingle : records.filter l.reference.names = [r])
    (hmiss : ∀ found, lookupIn text l r ≠ .ok found) (settings : AccessSettings) (unmask : Bool)
    (calls : List String) :
    answer records settings text unmask calls = .error (.fieldNotFound text) := by
  rw [answer_eq hscreen hparse hkind, InMemoryVault.lookup_of_single rfl hparse hsingle,
    InMemoryVault.lookupIn_eq_error hmiss]
  rfl

/-- Several records are named: the answer is that of the walk in the selected one. -/
theorem answer_of_several (hscreen : Screening.checkLocator text = .ok ())
    (hparse : Locator.parse text = .ok l) (hkind : l.kind ≠ .file)
    (hselect : selectRecord? l.reference records = some r) {r₁ r₂ : Record} {rest : List Record}
    (hseveral : records.filter l.reference.names = r₁ :: r₂ :: rest) (settings : AccessSettings)
    (unmask : Bool) (calls : List String) :
    answer records settings text unmask calls = valueAt settings.strictIndex r l unmask := by
  rw [answer_eq hscreen hparse hkind, InMemoryVault.lookup_of_several rfl hparse hseveral]
  simp only [resolveAmong, hselect]

/-- **When the answer is that of the walk** in the selected record: unless it is the only one that
is named, and the two ways diverge there. -/
theorem sameAnswer_answer_iff (hscreen : Screening.checkLocator text = .ok ())
    (hparse : Locator.parse text = .ok l) (hkind : l.kind ≠ .file)
    (hselect : selectRecord? l.reference records = some r) (settings : AccessSettings)
    (unmask : Bool) (calls : List String) :
    SameAnswer (answer records settings text unmask calls)
        (valueAt settings.strictIndex r l unmask) ↔
      ¬(records.filter l.reference.names = [r] ∧ Diverges settings.strictIndex unmask r l) := by
  have hmem := mem_filter_of_selectRecord? hselect
  -- By how many records are named: none contradicts the selection, and several are walked into.
  rcases hfilter : records.filter l.reference.names with _ | ⟨r₁, _ | ⟨r₂, rest⟩⟩
  · rw [hfilter] at hmem
    cases hmem
  · rw [hfilter, List.mem_singleton] at hmem
    subst hmem
    simp only [true_and]
    by_cases hfound : ∃ found, lookupIn text l r = .ok found
    · obtain ⟨found, hfound⟩ := hfound
      rw [answer_of_found hscreen hparse hkind hfilter hfound]
      exact Extraction.sameAnswer_valueFound_iff hkind hfound
    · have hmiss : ∀ found, lookupIn text l r ≠ .ok found := not_exists.mp hfound
      rw [answer_of_not_found hscreen hparse hkind hfilter hmiss,
        Extraction.sameAnswer_fieldNotFound_iff hkind,
        Extraction.diverges_iff_of_not_found hkind hmiss]
  · rw [answer_of_several hscreen hparse hkind hselect hfilter]
    refine iff_of_true (Extraction.sameAnswer_self_of_valueAt hkind _ _ _) ?_
    rintro ⟨hsingle, -⟩
    cases hsingle

/-- With a later record that is named too, several are. -/
theorem filter_append_of_named {reference : Reference} {later : List Record}
    (hr : r ∈ records.filter reference.names) (hlater : ∃ r' ∈ later, reference.names r' = true) :
    ∃ r₁ r₂ rest, (records ++ later).filter reference.names = r₁ :: r₂ :: rest := by
  obtain ⟨r', hr', hnames⟩ := hlater
  have hlength : 1 < ((records ++ later).filter reference.names).length := by
    have hpos := List.length_pos_of_mem hr
    have hpos' := List.length_pos_of_mem (List.mem_filter.mpr ⟨hr', hnames⟩)
    rw [List.filter_append, List.length_append]
    omega
  rcases hfilter : (records ++ later).filter reference.names with _ | ⟨r₁, _ | ⟨r₂, rest⟩⟩
  · simp [hfilter] at hlength
  · simp [hfilter] at hlength
  · exact ⟨r₁, r₂, rest, rfl⟩

/-- **When the way to a value does not matter**, for every locator of a field that passes its
screening and whose reference names some record: the answer is that of the walk in the selected
record, unless this is the only one that is named and the two ways diverge there. So later records
that are named too, and do not change the selection, leave the answer as it was under the same
condition. -/
theorem answer_agrees_iff (hscreen : Screening.checkLocator text = .ok ())
    (hparse : Locator.parse text = .ok l) (hkind : l.kind ≠ .file)
    (hnamed : ∃ r ∈ records, l.reference.names r = true) (settings : AccessSettings)
    (unmask : Bool) (calls : List String) :
    ∃ r, selectRecord? l.reference records = some r ∧
      (SameAnswer (answer records settings text unmask calls)
          (valueAt settings.strictIndex r l unmask) ↔
        ¬(records.filter l.reference.names = [r] ∧ Diverges settings.strictIndex unmask r l)) ∧
      ∀ later : List Record, (∃ r' ∈ later, l.reference.names r' = true) →
        (l.reference.uid? = some r.uid ∨ ∀ r' ∈ later, l.reference.uid? ≠ some r'.uid) →
        (SameAnswer (answer records settings text unmask calls)
            (answer (records ++ later) settings text unmask calls) ↔
          ¬(records.filter l.reference.names = [r] ∧
            Diverges settings.strictIndex unmask r l)) := by
  obtain ⟨r, hselect⟩ := exists_selectRecord? hnamed
  have hagrees := sameAnswer_answer_iff hscreen hparse hkind hselect settings unmask calls
  refine ⟨r, hselect, hagrees, fun later hlater huid => ?_⟩
  obtain ⟨r₁, r₂, rest, hseveral⟩ :=
    filter_append_of_named (mem_filter_of_selectRecord? hselect) hlater
  rw [answer_of_several hscreen hparse hkind (selectRecord?_append hselect huid) hseveral]
  exact hagrees

/-- The second address of a login among the sample records. The two ways do not diverge there, so
the answer is that of the walk, and it stays the same when a machine of the same title is added. -/
theorem answer_agrees_iff_url :
    let l : Locator := ⟨.title "Production Admin", .field ⟨"url", some 1, none⟩⟩
    let later : List Record := [{ Samples.machine with title := "Production Admin" }]
    Screening.checkLocator "Production Admin/field/url[1]" = .ok () ∧
      Locator.parse "Production Admin/field/url[1]" = .ok l ∧ l.kind ≠ .file ∧
      (∃ r ∈ Samples.all, l.reference.names r = true) ∧
      (∃ r' ∈ later, l.reference.names r' = true) ∧
      selectRecord? l.reference Samples.all = some Samples.login ∧
      ¬Diverges false false Samples.login l ∧
      SameAnswer (answer Samples.all {} "Production Admin/field/url[1]" false [])
        (valueAt false Samples.login l false) ∧
      SameAnswer (answer Samples.all {} "Production Admin/field/url[1]" false [])
        (answer (Samples.all ++ later) {} "Production Admin/field/url[1]" false []) := by
  intro l later
  have hscreen : Screening.checkLocator "Production Admin/field/url[1]" = .ok () := rfl
  have hparse : Locator.parse "Production Admin/field/url[1]" = .ok l := rfl
  have hkind : l.kind ≠ .file := by decide
  have hnamed : ∃ r ∈ Samples.all, l.reference.names r = true :=
    ⟨Samples.login, List.mem_cons_self, rfl⟩
  have hlater : ∃ r' ∈ later, l.reference.names r' = true := ⟨_, List.mem_cons_self, rfl⟩
  have hlogin : selectRecord? l.reference Samples.all = some Samples.login := rfl
  have hdiverges : ¬Diverges false false Samples.login l := by
    rintro (⟨hnone, -⟩ | ⟨hfield, hselector, hindex, hend, -, -⟩ |
      ⟨-, hselector, hproperty, -, -, -⟩ | ⟨-, hselector, -, hproperty, -, -, -⟩)
    · cases hnone
    · cases hfield
      cases hselector
      cases hindex
      exact absurd hend (by decide)
    · cases hselector
      cases hproperty
    · cases hselector
      cases hproperty
  obtain ⟨r, hselect, hwalk, hmore⟩ := answer_agrees_iff hscreen hparse hkind hnamed {} false []
  obtain rfl : Samples.login = r := Option.some.inj (hlogin.symm.trans hselect)
  have hsame : ¬(Samples.all.filter l.reference.names = [Samples.login] ∧
      Diverges false false Samples.login l) := fun h => hdiverges h.2
  have huid : ∀ r' ∈ later, l.reference.uid? ≠ some r'.uid := by
    intro r' _ huid
    cases huid
  exact ⟨hscreen, hparse, hkind, hnamed, hlater, hlogin, hdiverges, hwalk.mpr hsame,
    (hmore later hlater (Or.inr huid)).mpr hsame⟩

/-- Some ways do diverge: a custom field that is asked for as a standard one is found by its label
in the record, and not by the vault. -/
theorem not_forall_sameAnswer_answer :
    ¬∀ (records : List Record) (settings : AccessSettings) (text : String) (l : Locator)
        (unmask : Bool) (calls : List String) (r : Record),
      Screening.checkLocator text = .ok () → Locator.parse text = .ok l → l.kind ≠ .file →
        selectRecord? l.reference records = some r →
        SameAnswer (answer records settings text unmask calls)
          (valueAt settings.strictIndex r l unmask) := by
  intro h
  have hsame := h [Samples.login] {} "Production Admin/field/Region"
    ⟨.title "Production Admin", .field ⟨"Region", none, none⟩⟩ true [] Samples.login rfl rfl
    (by decide) rfl
  have hanswer : answer [Samples.login] {} "Production Admin/field/Region" true [] =
      .error (.fieldNotFound "Production Admin/field/Region") := rfl
  have hwalk : valueAt false Samples.login
      ⟨.title "Production Admin", .field ⟨"Region", none, none⟩⟩ true =
      .ok (.text "eu-central-1") := rfl
  rw [hanswer, hwalk] at hsame
  rcases hsame with ⟨_, hfound, -⟩ | ⟨_, _, -, hmiss⟩
  · cases hfound
  · cases hmiss

end Answer

end Gateway

end VaultLocator
