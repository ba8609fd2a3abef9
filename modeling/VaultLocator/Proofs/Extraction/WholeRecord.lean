import VaultLocator.Proofs.Extraction.Gathering
import VaultLocator.Proofs.First
import VaultLocator.Proofs.Record.Schema
import VaultLocator.Samples

/-!
# What is shown of a whole record

`VaultLocator.RecordView.Shows` says what a view of a record has to contain, without the order in
which it is gathered: the standard fields that are looked for, each by the first field of its type;
the custom fields under their headings, each by the first of them that can be decoded; the notes
unless they are empty; and what is told of the attached files. There is one such view, and it is
what is extracted: `VaultLocator.RecordView.ofRecord_eq_iff_shows`.

The two kinds of fields differ in what an undecodable field does. A standard field hides those after
it, since only the first of its type counts. A custom field does not
(`VaultLocator.Extraction.contains_customValues_iff`).

A record of a type that is not known is looked through for every field type that can be decoded, and
a field is taken on its own account, so nothing gets lost when a record type is not known
(`VaultLocator.RecordView.unknown_type_loses_nothing`).
-/

namespace VaultLocator

/-! ### Headings, and fields that can be decoded -/

namespace StoredField

/-- **The heading of a field**: its label, or its type if it has no label or an empty one. -/
inductive Headed (field : StoredField) : String → Prop
  | label {label : String} : field.label = some label → label ≠ "" → field.Headed label
  | fieldType : field.label = none ∨ field.label = some "" → field.Headed field.fieldType

theorem heading_eq_iff {field : StoredField} {name : String} :
    field.heading = name ↔ field.Headed name := by
  obtain ⟨type, label, values⟩ := field
  rw [heading, effectiveLabel]
  constructor
  · rintro rfl
    cases label with
    | none => exact .fieldType (Or.inl rfl)
    | some label =>
      by_cases hempty : label = ""
      · subst hempty
        exact .fieldType (Or.inr rfl)
      · have hkept : (some label).filter (fun label => !label.isEmpty) = some label := by
          simp [Option.filter, hempty]
        rw [hkept]
        exact .label rfl hempty
  · rintro (⟨rfl, hne⟩ | hlabel)
    · simp [Option.filter, hne]
    · rcases hlabel with rfl | rfl <;> rfl

/-- A field can be decoded. -/
def Decodes (field : StoredField) (unmask : Bool) : Prop :=
  ∃ value, field.decode unmask = .ok value

end StoredField

theorem Record.fieldOfType?_eq_some_iff {r : Record} {fieldType : String} {field : StoredField} :
    r.fieldOfType? fieldType = some field ↔
      IsFirst (fun field => field.fieldType = fieldType) r.fields field :=
  find?_eq_some_iff_isFirst fun _ _ => beq_iff_eq

namespace Extraction

theorem decoded?_eq_some_iff {field : StoredField} {unmask : Bool} {value : ShownValue} :
    decoded? field unmask = some value ↔ field.decode unmask = .ok value := by
  rw [decoded?]
  cases field.decode unmask with
  | error e => simp [Except.toOption]
  | ok v => simp [Except.toOption]

/-! ### The fields of a view -/

section Fields

variable {r : Record} {unmask : Bool} {name : String} {value : ShownValue}

/-- **A standard field is shown** if its type is looked for, by the first field of the type. -/
theorem get?_standardValues_eq_some_iff :
    (standardValues r unmask (Schema.fieldTypes r.recordType)).get? name = some value ↔
      Schema.Covers r.recordType name ∧
        ∃ field, r.fieldOfType? name = some field ∧ field.decode unmask = .ok value := by
  rw [get?_standardValues, Option.ite_none_right_eq_some, Schema.mem_fieldTypes_iff,
    Option.bind_eq_some_iff]
  simp only [decoded?_eq_some_iff]

/-- What a custom field contributes under a name: its value, if that is its heading. -/
theorem contribution_eq_some_iff {field : StoredField} :
    (if field.heading = name then decoded? field unmask else none) = some value ↔
      field.Headed name ∧ field.decode unmask = .ok value := by
  rw [Option.ite_none_right_eq_some, StoredField.heading_eq_iff, decoded?_eq_some_iff]

/-- **A custom field is shown** under its heading by the first field with this heading that can be
decoded. -/
theorem get?_customValues_eq_some_iff :
    (customValues r.custom unmask).get? name = some value ↔
      ∃ field, IsFirst (fun field => field.Headed name ∧ field.Decodes unmask) r.custom field ∧
        field.decode unmask = .ok value := by
  rw [get?_customValues, findSome?_eq_some_iff_isFirst]
  simp only [contribution_eq_some_iff, exists_and_left]
  exact exists_congr fun field => and_congr_right fun hfirst => and_iff_right hfirst.holds.1

/-- **No custom field is hidden by one that cannot be decoded**: there is a value under a heading if
some field with the heading has one. -/
theorem contains_customValues_iff :
    (customValues r.custom unmask).contains name = true ↔
      ∃ field ∈ r.custom, field.Headed name ∧ field.Decodes unmask := by
  rw [Dict.contains, Option.isSome_iff_exists]
  simp only [get?_customValues_eq_some_iff]
  constructor
  · rintro ⟨value, field, hfirst, -⟩
    exact ⟨field, hfirst.mem, hfirst.holds⟩
  · rintro ⟨field, hmem, hp⟩
    rcases exists_isFirst_or_none (fun field : StoredField =>
      field.Headed name ∧ field.Decodes unmask) r.custom with ⟨first, hfirst⟩ | hnone
    · obtain ⟨-, value, hvalue⟩ := hfirst.holds
      exact ⟨value, first, hfirst, hvalue⟩
    · exact absurd hp (hnone field hmem)

theorem notes?_eq_some_iff {notes : String} :
    notes? r = some notes ↔ notes = r.notes ∧ r.notes ≠ "" := by
  simp only [notes?, String.isEmpty_iff]
  split
  · next hempty => exact iff_of_false (by simp) fun h => h.2 hempty
  · next hne => rw [and_iff_left hne, Option.some_inj, eq_comm]

end Fields

end Extraction

/-! ### Whole views -/

namespace RecordView

/-- **What a view of a record has to contain.** -/
structure Shows (view : RecordView) (r : Record) (unmask : Bool) : Prop where
  uid : view.uid = r.uid
  title : view.title = r.title
  recordType : view.recordType = r.recordType
  /-- The field types that are looked for, each with the value of the first field of the type. -/
  fields : ∀ fieldType value, view.fields.get? fieldType = some value ↔
    Schema.Covers r.recordType fieldType ∧
      ∃ field, IsFirst (fun field => field.fieldType = fieldType) r.fields field ∧
        field.decode unmask = .ok value
  /-- The headings, each with the value of the first field with the heading that has one. -/
  custom : ∀ name value, view.custom.get? name = some value ↔
    ∃ field, IsFirst (fun field => field.Headed name ∧ field.Decodes unmask) r.custom field ∧
      field.decode unmask = .ok value
  /-- The notes, unless they are empty. -/
  notes : ∀ notes, view.notes = some notes ↔ notes = r.notes ∧ r.notes ≠ ""
  /-- What is told of each of the attached files, in their order. -/
  files : view.files = r.files.map fun file => ⟨file.name, file.title, file.size, file.mimeType⟩

theorem shows_ofRecord (r : Record) (unmask : Bool) : (ofRecord r unmask).Shows r unmask where
  uid := rfl
  title := rfl
  recordType := rfl
  fields _ _ := by
    simp only [← Record.fieldOfType?_eq_some_iff]
    exact Extraction.get?_standardValues_eq_some_iff
  custom _ _ := Extraction.get?_customValues_eq_some_iff
  notes _ := Extraction.notes?_eq_some_iff
  files := rfl

/-- There is no more than one view that contains what it has to. -/
theorem Shows.eq {view view' : RecordView} {r : Record} {unmask : Bool}
    (h : view.Shows r unmask) (h' : view'.Shows r unmask) : view = view' := by
  have hfields : view.fields = view'.fields := Dict.ext_get? fun fieldType =>
    Option.ext fun value => (h.fields fieldType value).trans (h'.fields fieldType value).symm
  have hcustom : view.custom = view'.custom := Dict.ext_get? fun name =>
    Option.ext fun value => (h.custom name value).trans (h'.custom name value).symm
  have hnotes : view.notes = view'.notes := Option.ext fun notes =>
    (h.notes notes).trans (h'.notes notes).symm
  have hfiles : view.files = view'.files := h.files.trans h'.files.symm
  have huid : view.uid = view'.uid := h.uid.trans h'.uid.symm
  have htitle : view.title = view'.title := h.title.trans h'.title.symm
  have htype : view.recordType = view'.recordType := h.recordType.trans h'.recordType.symm
  cases view
  cases view'
  simp only at huid htitle htype hfields hcustom hnotes hfiles
  rw [huid, htitle, htype, hfields, hcustom, hnotes, hfiles]

/-- **What is extracted from a record is exactly what there is to show of it**, for every record, in
clear or not, and there is always something: the view that is extracted contains what a view has to
contain, and no other does. In particular there is a value under a heading if any custom field with
the heading has one, even if others before it cannot be decoded. -/
theorem ofRecord_eq_iff_shows (r : Record) (unmask : Bool) :
    (∀ view, ofRecord r unmask = view ↔ view.Shows r unmask) ∧
      ∀ name, (ofRecord r unmask).custom.contains name = true ↔
        ∃ field ∈ r.custom, field.Headed name ∧ field.Decodes unmask := by
  refine ⟨fun view => ⟨?_, fun h => (shows_ofRecord r unmask).eq h⟩,
    fun name => Extraction.contains_customValues_iff⟩
  rintro rfl
  exact shows_ofRecord r unmask

-- A phone number that is no object does not hide the text after it, and an empty label is none.
example : (ofRecord
    { uid := "Ds1aaaaaaaaaaaaaaaaaaA"
      custom :=
        [Samples.labelled "Desk" (Samples.textField "phone" "555-0100"),
          Samples.labelled "Desk" (Samples.textField "text" "second floor"),
          Samples.labelled "Desk" (Samples.textField "text" "third floor"),
          Samples.labelled "" (Samples.textField "note" "by the window")] } false).custom.entries =
    [("Desk", .text "second floor"), ("note", .text "by the window")] := rfl

/-! ### Records of unknown types -/

/-- **Nothing gets lost when a record type is not known**: every field that is extracted from a
record of some type is extracted with the same value if the record is of a type that is not known,
and the custom fields, the notes and the files are the same. -/
theorem unknown_type_loses_nothing {unknown : String} (h : unknown ∉ Schema.names) (r : Record)
    (unmask : Bool) (recordType : String) :
    let view := ofRecord { r with recordType := recordType } unmask
    let view' := ofRecord { r with recordType := unknown } unmask
    (∀ fieldType value, view.fields.get? fieldType = some value →
        view'.fields.get? fieldType = some value) ∧
      view'.custom = view.custom ∧ view'.notes = view.notes ∧ view'.files = view.files := by
  intro view view'
  refine ⟨fun fieldType value hvalue => ?_, rfl, rfl, rfl⟩
  obtain ⟨hcovers, hfield⟩ := Extraction.get?_standardValues_eq_some_iff.mp hvalue
  -- A field type that is looked for is among all of them, and the field is found alike.
  exact Extraction.get?_standardValues_eq_some_iff.mpr ⟨.unknown h hcovers.mem_allFieldTypes, hfield⟩

/-- The password of a machine is found, and masked, under a record type that is not known too. -/
theorem unknown_type_loses_nothing_machine :
    let view := ofRecord { Samples.machine with recordType := "pamMachine" } false
    let view' := ofRecord { Samples.machine with recordType := "quantumKeyEscrow" } false
    "quantumKeyEscrow" ∉ Schema.names ∧
      view.fields.get? "password" = some (.text "n0t***one") ∧
      view'.fields.get? "password" = some (.text "n0t***one") ∧
      view'.custom = view.custom ∧ view'.notes = view.notes ∧ view'.files = view.files := by
  intro view view'
  have hunknown : "quantumKeyEscrow" ∉ Schema.names := Schema.expected?_eq_none_iff.mp rfl
  obtain ⟨hfields, hrest⟩ :=
    unknown_type_loses_nothing hunknown Samples.machine false "pamMachine"
  have hpassword : view.fields.get? "password" = some (.text "n0t***one") := rfl
  exact ⟨hunknown, hpassword, hfields _ _ hpassword, hrest⟩

end RecordView

end VaultLocator
