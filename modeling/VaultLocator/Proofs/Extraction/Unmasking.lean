import VaultLocator.Proofs.Extraction.Gathering
import VaultLocator.Proofs.Extraction.NativeLookup
import VaultLocator.Proofs.Field.Concealment

/-!
# What asking for secrets in clear changes

Secrets are masked unless they are asked for in clear. The question is what else depends on the
asking, and the answer is nothing: a decoded value is the clear one with its secrets concealed
(`VaultLocator.ShownValue.decode_false`), so every way to take values from a record finds the same
things under the same names, and fails with the same errors, whether it is asked for secrets or
not. `VaultLocator.Extraction.unmask_reveals_only_secrets` collects this for all of them.
-/

namespace VaultLocator

/-- Two views of a record have the same outline: they differ at most in the values of fields. -/
structure RecordView.SameOutline (view view' : RecordView) : Prop where
  uid : view.uid = view'.uid
  title : view.title = view'.title
  recordType : view.recordType = view'.recordType
  /-- The same standard fields are there. -/
  fields : ∀ name, view.fields.contains name = view'.fields.contains name
  /-- The same custom fields are there. -/
  custom : ∀ name, view.custom.contains name = view'.custom.contains name
  notes : view.notes = view'.notes
  files : view.files = view'.files

namespace Extraction

/-! ### Fields and records -/

/-- A field can be decoded or not, whether its secrets are asked for or not. -/
theorem isSome_decoded? (field : StoredField) :
    (decoded? field false).isSome = (decoded? field true).isSome := by
  rw [decoded?, decoded?, StoredField.decode, StoredField.decode, ShownValue.decode_false]
  cases ShownValue.decode field.fieldType field.effectiveLabel true field.values with
  | error e => rfl
  | ok value => rfl

theorem isSome_bind_decoded? (field : Option StoredField) :
    (field.bind (decoded? · false)).isSome = (field.bind (decoded? · true)).isSome := by
  cases field with
  | none => rfl
  | some field => exact isSome_decoded? field

theorem contains_standardValues (r : Record) (fieldTypes : List String) (name : String) :
    (standardValues r false fieldTypes).contains name =
      (standardValues r true fieldTypes).contains name := by
  rw [Dict.contains, Dict.contains, get?_standardValues, get?_standardValues]
  split
  · exact isSome_bind_decoded? _
  · rfl

theorem contains_customValues (custom : List StoredField) (name : String) :
    (customValues custom false).contains name = (customValues custom true).contains name := by
  rw [Dict.contains, Dict.contains, get?_customValues, get?_customValues,
    List.isSome_findSome?, List.isSome_findSome?]
  refine congrArg custom.any (funext fun field => ?_)
  split
  · exact isSome_decoded? field
  · rfl

/-- **A record is seen in the same outline**, masked or in clear. -/
theorem sameOutline_ofRecord (r : Record) :
    (RecordView.ofRecord r false).SameOutline (RecordView.ofRecord r true) where
  uid := rfl
  title := rfl
  recordType := rfl
  fields := contains_standardValues r _
  custom := contains_customValues r.custom
  notes := rfl
  files := rfl

theorem isSome_fieldNamed? (r : Record) (name : String) :
    (fieldNamed? r name false).isSome = (fieldNamed? r name true).isSome := by
  rw [fieldNamed?, fieldNamed?, Option.isSome_or, Option.isSome_or, isSome_bind_decoded?,
    isSome_bind_decoded?]

/-- The same names are found, the notes and the own password of the record included. -/
theorem isSome_valueNamed? (r : Record) (name : String) :
    (valueNamed? r name false).isSome = (valueNamed? r name true).isSome := by
  rw [valueNamed?_eq, valueNamed?_eq]
  split
  · rfl
  · exact isSome_fieldNamed? r name

theorem contains_valuesNamed (r : Record) (names : List String) (name : String) :
    (valuesNamed r names false).contains name = (valuesNamed r names true).contains name := by
  rw [Dict.contains, Dict.contains, get?_valuesNamed, get?_valuesNamed]
  split
  · exact isSome_valueNamed? r name
  · rfl

/-! ### Places -/

/-- Both succeed, or both fail with the same error. -/
def FailAlike (result result' : Except Error ShownValue) : Prop :=
  (∃ value value', result = .ok value ∧ result' = .ok value') ∨
    ∃ e, result = .error e ∧ result' = .error e

theorem failAlike_project {value : ShownValue} (h : value.NoNulls) (fieldType : String)
    (label : Option String) (selector : Selector) :
    FailAlike (project selector (value.concealed fieldType label)) (project selector value) := by
  rw [project, project]
  cases selector.property with
  | none => exact Or.inl ⟨_, _, rfl, rfl⟩
  | some property =>
    -- Concealing leaves the parts where they are.
    have hpart := ShownValue.isSome_part?_concealed h fieldType label property
    cases hclear : value.part? property with
    | none =>
      rw [hclear, Option.isSome_none, Option.isSome_eq_false_iff, Option.isNone_iff_eq_none]
        at hpart
      simp only [hpart, hclear]
      exact Or.inr ⟨_, rfl, rfl⟩
    | some part =>
      rw [hclear, Option.isSome_some, Option.isSome_iff_exists] at hpart
      obtain ⟨part', hpart'⟩ := hpart
      simp only [hpart', hclear]
      exact Or.inl ⟨_, _, rfl, rfl⟩

/-- Values are decoded and the part is taken, or not, whether secrets are asked for or not. -/
theorem failAlike_decode_project (fieldType : String) (label : Option String)
    (values : List Json) (selector : Selector) :
    FailAlike
      (orAbsent selector (ShownValue.decode fieldType label false values) >>= project selector)
      (orAbsent selector (ShownValue.decode fieldType label true values) >>= project selector) := by
  rw [ShownValue.decode_false]
  cases hdecode : ShownValue.decode fieldType label true values with
  | error e => exact Or.inr ⟨_, rfl, rfl⟩
  | ok value => exact failAlike_project (ShownValue.noNulls_of_decode hdecode) _ _ selector

theorem failAlike_pick (strict : Bool) (field : Option StoredField) (selector : Selector) :
    FailAlike (pick strict field selector false) (pick strict field selector true) := by
  cases field with
  | none => exact Or.inr ⟨_, rfl, rfl⟩
  | some field =>
    rw [pick, pick]
    cases selectedValues strict selector field.values with
    | error e => exact Or.inr ⟨_, rfl, rfl⟩
    | ok values => exact failAlike_decode_project field.fieldType field.effectiveLabel values _

/-- **The walk in a record** finds something or not, masked or in clear. -/
theorem failAlike_valueAt (strict : Bool) (r : Record) (l : Locator) :
    FailAlike (valueAt strict r l false) (valueAt strict r l true) := by
  obtain ⟨reference, target⟩ := l
  cases target with
  | field selector => exact failAlike_pick strict _ selector
  | customField selector => exact failAlike_pick strict _ selector
  | file name =>
    simp only [valueAt]
    cases r.attachment? name with
    | none => exact Or.inr ⟨_, rfl, rfl⟩
    | some file => exact Or.inl ⟨_, _, rfl, rfl⟩

theorem failAlike_scalarPart (selector : Selector) (property : String) (found : FoundField)
    (first : Json) :
    FailAlike (scalarPart selector property found false first)
      (scalarPart selector property found true first) := by
  cases first with
  | null => exact Or.inr ⟨_, rfl, rfl⟩
  | bool b => exact Or.inl ⟨_, _, rfl, rfl⟩
  | num n => exact Or.inl ⟨_, _, rfl, rfl⟩
  | str s => exact Or.inl ⟨_, _, rfl, rfl⟩
  | arr items => exact Or.inl ⟨_, _, rfl, rfl⟩
  | obj members => exact Or.inl ⟨_, _, rfl, rfl⟩

theorem failAlike_foundPart (selector : Selector) (property : String) (found : FoundField) :
    FailAlike (foundPart selector property found false)
      (foundPart selector property found true) := by
  rw [foundPart, foundPart]
  cases found.values with
  | nil => exact Or.inr ⟨_, rfl, rfl⟩
  | cons first rest =>
    simp only
    split
    · exact failAlike_scalarPart selector property found first
    · exact failAlike_decode_project found.fieldType found.label _ selector

/-- **What a vault found** can be decoded or not, masked or in clear. -/
theorem failAlike_valueFound (l : Locator) (found : FoundField) :
    FailAlike (valueFound l found false) (valueFound l found true) := by
  cases hselector : l.selector? with
  | none =>
    obtain ⟨reference, target⟩ := l
    cases target with
    | file name => exact Or.inr ⟨_, rfl, rfl⟩
    | field selector => cases hselector
    | customField selector => cases hselector
  | some selector =>
    rw [valueFound_of_selector? hselector, valueFound_of_selector? hselector]
    cases selector.property with
    | some property => exact failAlike_foundPart selector property found
    | none =>
      simp only [ShownValue.decode_false]
      cases ShownValue.decode found.fieldType found.label true found.values with
      | error e => exact Or.inr ⟨_, rfl, rfl⟩
      | ok value => exact Or.inl ⟨_, _, rfl, rfl⟩

/-! ### All ways together -/

/-- **Asking for secrets in clear reveals the secrets and changes nothing else.** A decoded value is
the clear one, concealed, with the same errors; and so every record is seen in the same outline,
the same names are found, and each place holds something or fails with the same error. -/
theorem unmask_reveals_only_secrets :
    (∀ fieldType label values, ShownValue.decode fieldType label false values =
      (ShownValue.decode fieldType label true values).map
        (ShownValue.concealed fieldType label)) ∧
    (∀ r, (RecordView.ofRecord r false).SameOutline (RecordView.ofRecord r true)) ∧
    (∀ r name, (valueNamed? r name false).isSome = (valueNamed? r name true).isSome) ∧
    (∀ r names name, (valuesNamed r names false).contains name =
      (valuesNamed r names true).contains name) ∧
    (∀ strict r l, FailAlike (valueAt strict r l false) (valueAt strict r l true)) ∧
    ∀ l found, FailAlike (valueFound l found false) (valueFound l found true) :=
  ⟨ShownValue.decode_false, sameOutline_ofRecord, isSome_valueNamed?, contains_valuesNamed,
    failAlike_valueAt, failAlike_valueFound⟩

-- Both numbers of a card are masked, and its date is not.
example : ShownValue.concealed "paymentCard" none
    (.entry .paymentCard [("cardNumber", .str "4111111111111111"),
      ("cardExpirationDate", .str "12/25"), ("cardSecurityCode", .str "123")]) =
    .entry .paymentCard [("cardNumber", .str "411***111"),
      ("cardExpirationDate", .str "12/25"), ("cardSecurityCode", .str "******")] := rfl

end Extraction

end VaultLocator
