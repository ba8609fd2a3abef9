import VaultLocator.Proofs.Extraction.Gathering
import VaultLocator.Proofs.Extraction.NativeLookup
import VaultLocator.Proofs.Field.Lookalike

/-!
# Records that look alike

Two records *look alike* (`VaultLocator.Record.LooksAlike`) if they differ at most in the values of
their fields, and these look alike one by one. Then nothing that is extracted without asking for
secrets tells them apart (`VaultLocator.Extraction.masked_extraction_congr`): neither the whole
record, nor a value by name, nor a value at a place, nor the error if there is none.

The argument is that every extraction looks a field up by its type and its label, which are the
same in both records, and otherwise sees the values of the field only through the decoder. The own
password of a record, which is not decoded, is what the decoder would give
(`VaultLocator.Extraction.valueNamed?_eq`).
-/

namespace VaultLocator

/-- Two fields look alike: they have the same type and label, and their values look alike. -/
structure StoredField.LooksAlike (field field' : StoredField) : Prop where
  fieldType : field.fieldType = field'.fieldType
  label : field.label = field'.label
  values : List.Forall₂ (VaultLocator.LooksAlike field.fieldType field.effectiveLabel)
    field.values field'.values

/-- **Two records look alike**: they differ at most in the values of their fields, and these look
alike. -/
structure Record.LooksAlike (r r' : Record) : Prop where
  uid : r.uid = r'.uid
  title : r.title = r'.title
  recordType : r.recordType = r'.recordType
  notes : r.notes = r'.notes
  fields : List.Forall₂ StoredField.LooksAlike r.fields r'.fields
  custom : List.Forall₂ StoredField.LooksAlike r.custom r'.custom
  files : r.files = r'.files

/-! ### Looking up in related lists -/

section Related

variable {α : Type} {R : α → α → Prop}

/-- The first elements with a property are related, if the property does not tell related elements
apart. -/
theorem rel_find? {p : α → Bool} (hp : ∀ x y, R x y → p x = p y) {xs ys : List α}
    (h : List.Forall₂ R xs ys) : Option.Rel R (xs.find? p) (ys.find? p) := by
  induction h with
  | nil => exact .none
  | cons hxy _ ih =>
    rw [List.find?_cons, List.find?_cons, hp _ _ hxy]
    split
    · exact .some hxy
    · exact ih

theorem rel_getElem? {xs ys : List α} (h : List.Forall₂ R xs ys) (i : Nat) :
    Option.Rel R xs[i]? ys[i]? := by
  induction h generalizing i with
  | nil => exact .none
  | cons hxy _ ih =>
    cases i with
    | zero => exact .some hxy
    | succ i => exact ih i

theorem rel_or {o o' p p' : Option α} (ho : Option.Rel R o o') (hp : Option.Rel R p p') :
    Option.Rel R (o.or p) (o'.or p') := by
  cases ho with
  | none => exact hp
  | some hxy => exact .some hxy

end Related

/-! ### Fields -/

namespace StoredField.LooksAlike

variable {field field' : StoredField}

theorem effectiveLabel (h : field.LooksAlike field') :
    field.effectiveLabel = field'.effectiveLabel := by
  rw [StoredField.effectiveLabel, StoredField.effectiveLabel, h.label]

theorem heading (h : field.LooksAlike field') : field.heading = field'.heading := by
  rw [StoredField.heading, StoredField.heading, h.effectiveLabel, h.fieldType]

/-- Fields that look alike are decoded alike. -/
theorem decoded? (h : field.LooksAlike field') :
    Extraction.decoded? field false = Extraction.decoded? field' false := by
  rw [Extraction.decoded?, Extraction.decoded?, StoredField.decode, StoredField.decode,
    ← h.fieldType, ← h.effectiveLabel, ShownValue.decode_false_congr h.values]

end StoredField.LooksAlike

namespace Record.LooksAlike

variable {r r' : Record} (h : r.LooksAlike r')
include h

theorem fieldOfType? (fieldType : String) :
    Option.Rel StoredField.LooksAlike (r.fieldOfType? fieldType) (r'.fieldOfType? fieldType) :=
  rel_find? (fun _ _ hf => by rw [hf.fieldType]) h.fields

theorem customOfType? (fieldType : String) :
    Option.Rel StoredField.LooksAlike (r.customOfType? fieldType)
      (r'.customOfType? fieldType) :=
  rel_find? (fun _ _ hf => by rw [hf.fieldType]) h.custom

theorem fieldLabelled? (label : String) :
    Option.Rel StoredField.LooksAlike (r.fieldLabelled? label) (r'.fieldLabelled? label) :=
  rel_find? (fun _ _ hf => by rw [hf.effectiveLabel]) h.fields

theorem customLabelled? (label : String) :
    Option.Rel StoredField.LooksAlike (r.customLabelled? label) (r'.customLabelled? label) :=
  rel_find? (fun _ _ hf => by rw [hf.effectiveLabel]) h.custom

theorem targetField? (custom : Bool) (name : String) :
    Option.Rel StoredField.LooksAlike (Extraction.targetField? r custom name)
      (Extraction.targetField? r' custom name) := by
  rw [Extraction.targetField?, Extraction.targetField?]
  split
  · exact rel_or (rel_or (rel_or (h.customLabelled? name) (h.customOfType? name))
      (h.fieldOfType? name)) (h.fieldLabelled? name)
  · exact rel_or (rel_or (rel_or (h.fieldOfType? name) (h.fieldLabelled? name))
      (h.customOfType? name)) (h.customLabelled? name)

end Record.LooksAlike

namespace Extraction

/-! ### Whole records and names -/

theorem bind_decoded?_congr {field field' : Option StoredField}
    (h : Option.Rel StoredField.LooksAlike field field') :
    field.bind (decoded? · false) = field'.bind (decoded? · false) := by
  cases h with
  | none => rfl
  | some hf => exact hf.decoded?

section Records

variable {r r' : Record} (h : r.LooksAlike r')
include h

theorem standardValues_congr (fieldTypes : List String) :
    standardValues r false fieldTypes = standardValues r' false fieldTypes := by
  refine Dict.ext_get? fun key => ?_
  rw [get?_standardValues, get?_standardValues, bind_decoded?_congr (h.fieldOfType? key)]

theorem customValues_congr : customValues r.custom false = customValues r'.custom false := by
  refine Dict.ext_get? fun key => ?_
  have hmap := map_eq_map_of_forall₂ (f := fun field : StoredField =>
    if field.heading = key then decoded? field false else none)
    (fun _ _ hf => by simp only [hf.heading, hf.decoded?]) h.custom
  have hsome := congrArg (List.findSome? id) hmap
  rw [List.findSome?_map, List.findSome?_map] at hsome
  rw [get?_customValues, get?_customValues]
  exact hsome

theorem ofRecord_congr : RecordView.ofRecord r false = RecordView.ofRecord r' false := by
  rw [RecordView.ofRecord, RecordView.ofRecord, standardValues_congr h, customValues_congr h,
    notes?, notes?, h.uid, h.title, h.recordType, h.notes, h.files]

theorem valueNamed?_congr (name : String) :
    valueNamed? r name false = valueNamed? r' name false := by
  rw [valueNamed?_eq, valueNamed?_eq, notes?, notes?, h.notes, fieldNamed?, fieldNamed?,
    bind_decoded?_congr (rel_or (h.fieldOfType? name) (h.customOfType? name)),
    Record.anyLabelled?, Record.anyLabelled?,
    bind_decoded?_congr (rel_or (h.fieldLabelled? name) (h.customLabelled? name))]

theorem valuesNamed_congr (names : List String) :
    valuesNamed r names false = valuesNamed r' names false := by
  refine Dict.ext_get? fun key => ?_
  rw [get?_valuesNamed, get?_valuesNamed, valueNamed?_congr h key]

end Records

/-! ### Places -/

/-- From related values related ones are selected, or there is the same error. -/
theorem selectedValues_rel {R : Json → Json → Prop} {values values' : List Json}
    (h : List.Forall₂ R values values') (strict : Bool) (selector : Selector) :
    (∃ e, selectedValues strict selector values = .error e ∧
        selectedValues strict selector values' = .error e) ∨
      ∃ chosen chosen', selectedValues strict selector values = .ok chosen ∧
        selectedValues strict selector values' = .ok chosen' ∧ List.Forall₂ R chosen chosen' := by
  rw [selectedValues, selectedValues]
  cases selector.index with
  | none => exact Or.inr ⟨values, values', rfl, rfl, h⟩
  | some index =>
    have hget := rel_getElem? h index.toNat
    simp only
    cases hvalue : values[index.toNat]? with
    | some value =>
      rw [hvalue] at hget
      cases hvalue' : values'[index.toNat]? with
      | none =>
        rw [hvalue'] at hget
        cases hget
      | some value' =>
        rw [hvalue'] at hget
        cases hget with
        | some hR => exact Or.inr ⟨[value], [value'], rfl, rfl, .cons hR .nil⟩
    | none =>
      rw [hvalue] at hget
      cases hvalue' : values'[index.toNat]? with
      | some value' =>
        rw [hvalue'] at hget
        cases hget
      | none =>
        cases strict with
        | true => exact Or.inl ⟨_, rfl, rfl⟩
        | false => exact Or.inr ⟨_, _, rfl, rfl, List.forall₂_take 1 h⟩

theorem pick_congr {field field' : Option StoredField}
    (h : Option.Rel StoredField.LooksAlike field field') (strict : Bool) (selector : Selector) :
    pick strict field selector false = pick strict field' selector false := by
  cases h with
  | none => rfl
  | @some field field' hf =>
    rw [pick, pick]
    rcases selectedValues_rel hf.values strict selector with
      ⟨e, he, he'⟩ | ⟨chosen, chosen', hchosen, hchosen', halike⟩
    · rw [he, he']
      rfl
    · rw [hchosen, hchosen', ← hf.fieldType, ← hf.effectiveLabel]
      simp only [bind, Except.bind, ShownValue.decode_false_congr halike]

theorem valueAt_congr {r r' : Record} (h : r.LooksAlike r') (strict : Bool) (l : Locator) :
    valueAt strict r l false = valueAt strict r' l false := by
  obtain ⟨reference, target⟩ := l
  cases target with
  | field selector => exact pick_congr (h.targetField? false selector.name) strict selector
  | customField selector => exact pick_congr (h.targetField? true selector.name) strict selector
  | file name => simp only [valueAt, Record.attachment?, h.files]

/-! ### All ways together -/

/-- **Masked extraction does not depend on what is hidden**: from records that look alike the same
is extracted when secrets are not asked for, or the same error is reported. -/
theorem masked_extraction_congr {r r' : Record} (h : r.LooksAlike r') :
    RecordView.ofRecord r false = RecordView.ofRecord r' false ∧
      (∀ name, valueNamed? r name false = valueNamed? r' name false) ∧
      (∀ names, valuesNamed r names false = valuesNamed r' names false) ∧
      ∀ strict l, valueAt strict r l false = valueAt strict r' l false :=
  ⟨ofRecord_congr h, valueNamed?_congr h, valuesNamed_congr h, valueAt_congr h⟩

/-- A record with nothing but a pin code. -/
def pinRecord (pin : Json) : Record :=
  { uid := "Pn1aaaaaaaaaaaaaaaaaaA", fields := [{ fieldType := "pinCode", values := [pin] }] }

/-- Neither the length of a pin code nor whether it is a number or a text can be seen. -/
theorem masked_extraction_congr_pin :
    let r := pinRecord (.num (.int 1230987))
    let r' := pinRecord (.str "123-45-987")
    r.LooksAlike r' ∧ RecordView.ofRecord r false = RecordView.ofRecord r' false ∧
      (∀ name, valueNamed? r name false = valueNamed? r' name false) ∧
      (∀ names, valuesNamed r names false = valuesNamed r' names false) ∧
      ∀ strict l, valueAt strict r l false = valueAt strict r' l false := by
  intro r r'
  have hmask : SameMask (some (.num (.int 1230987))) (some (.str "123-45-987")) :=
    .masked rfl rfl rfl rfl rfl
  have hpin : VaultLocator.LooksAlike "pinCode" none (.num (.int 1230987)) (.str "123-45-987") :=
    .scalar rfl rfl hmask
  have h : r.LooksAlike r' :=
    ⟨rfl, rfl, rfl, rfl, .cons ⟨rfl, rfl, .cons hpin .nil⟩ .nil, .nil, rfl⟩
  exact ⟨h, masked_extraction_congr h⟩

end Extraction

end VaultLocator
