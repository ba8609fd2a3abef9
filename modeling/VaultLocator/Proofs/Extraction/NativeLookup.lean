import VaultLocator.Proofs.Extraction.Place
import VaultLocator.Proofs.Field.Part
import VaultLocator.Proofs.Result
import VaultLocator.Samples
import VaultLocator.Vault.InMemory

/-!
# A native lookup refines the extraction from the record

A gateway knows two ways to a value. It can take the record and walk to the place in it
(`VaultLocator.Extraction.valueAt`), or it can have the vault find the place and decode what the
vault gives (`VaultLocator.Extraction.valueFound`). The vault has applied index and property
*before* anything is decoded, the walk applies the property *after*.

Where a native lookup of a `VaultLocator.InMemoryVault` finds something, the two ways come to the
same result (`VaultLocator.Extraction.valueFound_agrees_valueAt`), with one exception: a part of a
scalar field, which the vault finds and the walk does not.
-/

namespace VaultLocator

/-! ### What a lookup in memory gives -/

namespace InMemoryVault

/-- The values of a field at the index of a selector; all of them if it has no index. -/
def elements (selector : Selector) (values : List Json) : List Json :=
  match selector.index with
  | some index => values[index.toNat]?.toList
  | none => values

theorem selectValues_of_property_none {selector : Selector} (h : selector.property = none)
    (values : List Json) : selectValues selector values = elements selector values := by
  simp only [selectValues, h]
  rfl

theorem selectValues_of_property_some {selector : Selector} {property : String}
    (h : selector.property = some property) (values : List Json) :
    selectValues selector values =
      ((elements selector values).head?.bind (Json.member? property)).toList := by
  simp only [selectValues, h]
  rfl

/-- Of no values, nothing is selected. -/
theorem selectValues_of_elements_nil {selector : Selector} {values : List Json}
    (h : elements selector values = []) : selectValues selector values = [] := by
  cases hproperty : selector.property with
  | none => rw [selectValues_of_property_none hproperty, h]
  | some property =>
    rw [selectValues_of_property_some hproperty, h]
    rfl

/-- If a property is selected, the first of the values is an object that has it, and it is all that
is selected. -/
theorem exists_member_of_selectValues {selector : Selector} {property : String}
    (h : selector.property = some property) {values : List Json}
    (hne : selectValues selector values ≠ []) :
    ∃ members rest member, elements selector values = .obj members :: rest ∧
      Dict.find? property members = some member ∧ selectValues selector values = [member] := by
  rw [selectValues_of_property_some h] at hne ⊢
  cases helements : elements selector values with
  | nil =>
    rw [helements] at hne
    exact absurd rfl hne
  | cons first rest =>
    rw [helements] at hne
    cases hmember : Json.member? property first with
    | none =>
      rw [List.head?_cons, Option.bind_some, hmember] at hne
      exact absurd rfl hne
    | some member =>
      cases first with
      | obj members =>
        refine ⟨members, rest, member, rfl, hmember, ?_⟩
        rw [List.head?_cons, Option.bind_some, hmember]
        rfl
      | _ => cases hmember

/-- **What a native lookup in a record finds**: the field, by its own rules, and the values that
the selector takes from it, unless there are none. -/
theorem lookupIn_eq_ok_iff {text : String} {l : Locator} {r : Record} {found : FoundField} :
    lookupIn text l r = .ok found ↔ ∃ field selector, nativeField? r l.target = some field ∧
      l.selector? = some selector ∧ selectValues selector field.values ≠ [] ∧
        found = ⟨field.fieldType, field.effectiveLabel, selectValues selector field.values⟩ := by
  rw [lookupIn]
  constructor
  · intro h
    split at h
    · next field selector hfield hselector =>
      split at h
      · cases h
      · next hvalues =>
        cases h
        exact ⟨field, selector, hfield, hselector, hvalues, rfl⟩
    · cases h
  · rintro ⟨field, selector, hfield, hselector, hvalues, rfl⟩
    simp only [hfield, hselector]

/-- A native lookup in a record that finds nothing says so with the text of the locator. -/
theorem lookupIn_eq_error {text : String} {l : Locator} {r : Record}
    (h : ∀ found, lookupIn text l r ≠ .ok found) : lookupIn text l r = .error (.notFound text) := by
  rw [lookupIn] at h ⊢
  split
  · split
    · rfl
    · next hfield hselector _ _ =>
      simp only [hfield, hselector] at h
      exact absurd rfl (h _)
  · rfl

section Healthy

variable {v : InMemoryVault} {text : String} {l : Locator}

theorem lookup_of_healthy (hv : v.failure = none) : v.lookup text = lookupAmong v.records text := by
  simp only [lookup, served, hv]
  rfl

/-- A reference that names one record is looked up in that record. -/
theorem lookup_of_single (hv : v.failure = none) (hparse : Locator.parse text = .ok l)
    {r : Record} (h : v.records.filter l.reference.names = [r]) :
    v.lookup text = lookupIn text l r := by
  rw [lookup_of_healthy hv, lookupAmong]
  simp only [hparse, h]

/-- A reference that names several records is refused. -/
theorem lookup_of_several (hv : v.failure = none) (hparse : Locator.parse text = .ok l)
    {r r' : Record} {rest : List Record}
    (h : v.records.filter l.reference.names = r :: r' :: rest) :
    v.lookup text = .error (.ambiguous l.reference.text) := by
  rw [lookup_of_healthy hv, lookupAmong]
  simp only [hparse, h]

end Healthy

/-- A vault in memory that finds a field has not failed, and has looked it up in the only record
that the reference names. -/
theorem exists_lookupIn_of_lookup {v : InMemoryVault} {text : String} {l : Locator}
    {found : FoundField} (hparse : Locator.parse text = .ok l) (h : v.lookup text = .ok found) :
    ∃ r, v.records.filter l.reference.names = [r] ∧ lookupIn text l r = .ok found := by
  cases hv : v.failure with
  | some error =>
    simp only [lookup, served, hv] at h
    cases h
  | none =>
    cases hfilter : v.records.filter l.reference.names with
    | nil =>
      rw [lookup_of_healthy hv, lookupAmong] at h
      simp only [hparse, hfilter] at h
      cases h
    | cons r rest =>
      cases rest with
      | nil => exact ⟨r, rfl, lookup_of_single hv hparse hfilter ▸ h⟩
      | cons r' rest =>
        rw [lookup_of_several hv hparse hfilter] at h
        cases h

end InMemoryVault

/-! ### What the walk in a record gives -/

namespace Extraction

open InMemoryVault (elements selectValues nativeField?)

/-- The field of a record that the walk takes. -/
def fieldAt? (r : Record) : Target → Option StoredField
  | .field selector => targetField? r false selector.name
  | .customField selector => targetField? r true selector.name
  | .file _ => none

theorem valueAt_eq_pick {l : Locator} {selector : Selector} (h : l.selector? = some selector)
    (strict : Bool) (r : Record) (unmask : Bool) :
    valueAt strict r l unmask = pick strict (fieldAt? r l.target) selector unmask := by
  obtain ⟨reference, target⟩ := l
  cases target with
  | field s =>
    cases h
    rfl
  | customField s =>
    cases h
    rfl
  | file name => cases h

/-- The walk tries the field first that a native lookup takes. -/
theorem fieldAt?_of_nativeField? {r : Record} {target : Target} {field : StoredField}
    (h : nativeField? r target = some field) : fieldAt? r target = some field := by
  cases target with
  | field selector =>
    rw [nativeField?] at h
    rw [fieldAt?, targetField?, if_neg Bool.false_ne_true, h]
    rfl
  | customField selector =>
    rw [nativeField?] at h
    rw [fieldAt?, targetField?, if_pos rfl, h]
    rfl
  | file name => cases h

/-- If there is something at the index, that is what is selected, strictly or not. -/
theorem selectedValues_of_elements_ne_nil {selector : Selector} {values : List Json}
    (h : elements selector values ≠ []) (strict : Bool) :
    selectedValues strict selector values = .ok (elements selector values) := by
  rw [elements] at h ⊢
  rw [selectedValues]
  cases hindex : selector.index with
  | none => rfl
  | some index =>
    simp only [hindex] at h
    cases hvalue : values[index.toNat]? with
    | none =>
      rw [hvalue] at h
      exact absurd rfl h
    | some value => simp only [hvalue, Option.toList_some]

theorem orAbsent_eq_ok_iff {selector : Selector} {result : Except Error ShownValue}
    {value : ShownValue} : orAbsent selector result = .ok value ↔ result = .ok value :=
  Result.mapError_eq_ok_iff

/-- **What the walk gives**: the values are selected, decoded, and then the part is taken. -/
theorem pick_eq_ok_iff {strict : Bool} {field : StoredField} {selector : Selector} {unmask : Bool}
    {value : ShownValue} :
    pick strict (some field) selector unmask = .ok value ↔
      ∃ values, selectedValues strict selector field.values = .ok values ∧
        ∃ decoded, ShownValue.decode field.fieldType field.effectiveLabel unmask values =
          .ok decoded ∧ project selector decoded = .ok value := by
  simp only [pick, Result.bind_eq_ok_iff, orAbsent_eq_ok_iff]

theorem project_of_property_none {selector : Selector} (h : selector.property = none)
    (value : ShownValue) : project selector value = .ok value := by
  simp only [project, h]

/-- The part that is taken depends on nothing else of the value. -/
theorem project_congr {selector : Selector} {property : String}
    (h : selector.property = some property) {value value' : ShownValue}
    (hpart : value.part? property = value'.part? property) :
    project selector value = project selector value' := by
  simp only [project, h, hpart]

/-- **The walk reports nothing but absence.** -/
theorem exists_fieldNotFound_of_pick {strict : Bool} {field : Option StoredField}
    {selector : Selector} {unmask : Bool} {e : Error}
    (h : pick strict field selector unmask = .error e) : ∃ what, e = .fieldNotFound what := by
  obtain ⟨what, -, rfl⟩ := reportsOnly_pick field e h
  exact ⟨what, rfl⟩

/-! ### The two ways compared -/

/-- **What a vault finds is what the walk finds** in the same field, unless it is a part of a
scalar. Without a property both decode the same values; with one, the walk decodes the object that
has it and the vault's answer is put back into an object that has nothing else. -/
theorem valueFound_eq_pick {l : Locator} {selector : Selector} {field : StoredField}
    (hselector : l.selector? = some selector) (hvalues : selectValues selector field.values ≠ [])
    (hshape : Shape.ofType field.fieldType ≠ .scalar ∨ selector.property = none)
    (strict unmask : Bool) :
    valueFound l ⟨field.fieldType, field.effectiveLabel, selectValues selector field.values⟩
        unmask = pick strict (some field) selector unmask := by
  have helements : elements selector field.values ≠ [] := fun hc =>
    hvalues (InMemoryVault.selectValues_of_elements_nil hc)
  have hpick : pick strict (some field) selector unmask =
      orAbsent selector (ShownValue.decode field.fieldType field.effectiveLabel unmask
        (elements selector field.values)) >>= project selector := by
    rw [pick, selectedValues_of_elements_ne_nil helements]
    rfl
  rw [valueFound_of_selector? hselector, hpick]
  cases hproperty : selector.property with
  | none =>
    simp only [InMemoryVault.selectValues_of_property_none hproperty]
    cases ShownValue.decode field.fieldType field.effectiveLabel unmask
        (elements selector field.values) with
    | error e => rfl
    | ok value => exact (project_of_property_none hproperty value).symm
  | some property =>
    have hnotScalar : Shape.ofType field.fieldType ≠ .scalar :=
      hshape.resolve_right fun hc => by
        rw [hproperty] at hc
        cases hc
    -- The vault has taken the member out of the first value; the walk decodes that value whole.
    obtain ⟨members, rest, member, hobj, hmember, hselect⟩ :=
      InMemoryVault.exists_member_of_selectValues hproperty hvalues
    simp only [hselect, hobj, foundPart, if_neg hnotScalar]
    rcases ShownValue.part?_decode_rewrap hnotScalar hmember field.effectiveLabel unmask rest with
      ⟨e, e', herror, herror'⟩ | ⟨value, value', hvalue, hvalue', hpart⟩
    · rw [herror, herror']
      rfl
    · rw [hvalue, hvalue']
      exact project_congr hproperty hpart.symm

theorem exists_fieldNotFound_of_valueAt {l : Locator} (h : l.kind ≠ .file) {strict : Bool}
    {r : Record} {unmask : Bool} {e : Error} (herror : valueAt strict r l unmask = .error e) :
    ∃ what, e = .fieldNotFound what := by
  obtain ⟨reference, target⟩ := l
  cases target with
  | field selector => exact exists_fieldNotFound_of_pick herror
  | customField selector => exact exists_fieldNotFound_of_pick herror
  | file name => exact absurd rfl h

/-- The same value, or the same report that there is nothing at the place. -/
def SameResult (result result' : Except Error ShownValue) : Prop :=
  (∃ value, result = .ok value ∧ result' = .ok value) ∨
    ∃ what, result = .error (.fieldNotFound what) ∧ result' = .error (.fieldNotFound what)

/-- **A native lookup that finds something refines the walk**: exactly one record is named, and
decoding what was found gives the same as walking to the place in that record, strictly or not and
masked or not – but for parts of scalars. -/
theorem valueFound_agrees_valueAt {v : InMemoryVault} {text : String} {l : Locator}
    {found : FoundField} (hparse : Locator.parse text = .ok l) (hfound : v.lookup text = .ok found)
    (hshape : Shape.ofType found.fieldType ≠ .scalar ∨ l.selector?.bind Selector.property = none)
    (strict unmask : Bool) :
    ∃ r, v.records.filter l.reference.names = [r] ∧
      SameResult (valueFound l found unmask) (valueAt strict r l unmask) := by
  obtain ⟨r, hr, hlookup⟩ := InMemoryVault.exists_lookupIn_of_lookup hparse hfound
  obtain ⟨field, selector, hfield, hselector, hvalues, rfl⟩ :=
    InMemoryVault.lookupIn_eq_ok_iff.mp hlookup
  rw [hselector, Option.bind_some] at hshape
  refine ⟨r, hr, ?_⟩
  rw [valueFound_eq_pick hselector hvalues hshape strict, valueAt_eq_pick hselector,
    fieldAt?_of_nativeField? hfield]
  cases hpick : pick strict (some field) selector unmask with
  | ok value => exact Or.inl ⟨value, rfl, rfl⟩
  | error e =>
    obtain ⟨what, rfl⟩ := exists_fieldNotFound_of_pick hpick
    exact Or.inr ⟨what, rfl, rfl⟩

/-- The number of a card, which is masked, in a custom field that is found by its label. -/
theorem valueFound_agrees_valueAt_card :
    Locator.parse "Ops Vault/custom_field/Corporate Card[cardNumber]" =
        .ok ⟨.title "Ops Vault", .customField ⟨"Corporate Card", none, some "cardNumber"⟩⟩ ∧
      InMemoryVault.lookup ⟨Samples.all, none⟩
          "Ops Vault/custom_field/Corporate Card[cardNumber]" =
        .ok ⟨"paymentCard", some "Corporate Card", [.str "4111111111111111"]⟩ ∧
      Shape.ofType "paymentCard" ≠ .scalar ∧
      ∃ r, Samples.all.filter (Reference.title "Ops Vault").names = [r] ∧
        SameResult
          (valueFound
            ⟨.title "Ops Vault", .customField ⟨"Corporate Card", none, some "cardNumber"⟩⟩
            ⟨"paymentCard", some "Corporate Card", [.str "4111111111111111"]⟩ false)
          (valueAt true r
            ⟨.title "Ops Vault", .customField ⟨"Corporate Card", none, some "cardNumber"⟩⟩
            false) := by
  have hlookup : InMemoryVault.lookup ⟨Samples.all, none⟩
      "Ops Vault/custom_field/Corporate Card[cardNumber]" =
        .ok ⟨"paymentCard", some "Corporate Card", [.str "4111111111111111"]⟩ := rfl
  have hshape : Shape.ofType "paymentCard" ≠ .scalar := by decide
  exact ⟨rfl, hlookup, hshape,
    valueFound_agrees_valueAt rfl hlookup (Or.inl hshape) true false⟩

end Extraction

end VaultLocator
