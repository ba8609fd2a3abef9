import VaultLocator.Proofs.Extraction.NativeLookup
import VaultLocator.Proofs.Extraction.WholeRecord

/-!
# The ways to a standard field agree

The value of a standard field can be had with the whole record, by its name, among the values under
several names, or at its place. These ways look for fields in different orders, and the password of
a record has a way of its own; but each of them begins with the first standard field of the type. So
what is shown of a whole record under a field type is what all the other ways give for it
(`VaultLocator.Extraction.standard_field_ways_agree`). Only the name of the notes is not always that
of a field, and no field type that is extracted is called so.

The other direction fails: a value by name may be that of a custom field, or of a field with the
name as its label.
-/

namespace VaultLocator.Extraction

section Field

variable {r : Record} {name : String} {field : StoredField} {unmask : Bool} {value : ShownValue}

/-- A field type that is looked for is not the name of the notes. -/
theorem ne_notes_of_covers {recordType fieldType : String}
    (h : Schema.Covers recordType fieldType) : fieldType ≠ "notes" := by
  rintro rfl
  have hnotes : "notes" ∉ Schema.allFieldTypes := by decide
  exact hnotes h.mem_allFieldTypes

/-- **What is shown under a field type** is what the first field of the type is decoded to. -/
theorem exists_field_of_shown (h : (RecordView.ofRecord r unmask).fields.get? name = some value) :
    ∃ field, name ≠ "notes" ∧ r.fieldOfType? name = some field ∧
      field.decode unmask = .ok value := by
  obtain ⟨hcovers, field, hfield, hdecode⟩ := get?_standardValues_eq_some_iff.mp h
  exact ⟨field, ne_notes_of_covers hcovers, hfield, hdecode⟩

/-- By its name a record gives the first standard field of that type, if it can be decoded. -/
theorem valueNamed?_of_fieldOfType? (hname : name ≠ "notes")
    (hfield : r.fieldOfType? name = some field) (hdecode : field.decode unmask = .ok value) :
    valueNamed? r name unmask = some value := by
  rw [valueNamed?_eq, if_neg hname, fieldNamed?, hfield, Option.some_or, Option.bind_some,
    decoded?_eq_some_iff.mpr hdecode, Option.some_or]

/-- At the place of a standard field, without an index or a property, is the first standard field of
that type. -/
theorem valueAt_of_fieldOfType? (hfield : r.fieldOfType? name = some field)
    (hdecode : field.decode unmask = .ok value) (strict : Bool) (reference : Reference) :
    valueAt strict r ⟨reference, .field ⟨name, none, none⟩⟩ unmask = .ok value := by
  have htarget : targetField? r false name = some field := by
    rw [targetField?, if_neg Bool.false_ne_true, hfield, Option.some_or, Option.some_or,
      Option.some_or]
  have hpick : pick strict (some field) ⟨name, none, none⟩ unmask = .ok value :=
    pick_eq_ok_iff.mpr ⟨field.values, rfl, value, hdecode, project_of_property_none rfl value⟩
  rw [← htarget] at hpick
  exact hpick

end Field

/-- **The values under several names** are those of the names that have one. -/
theorem get?_valuesNamed_eq_some_iff {r : Record} {names : List String} {unmask : Bool}
    {name : String} {value : ShownValue} :
    (valuesNamed r names unmask).get? name = some value ↔
      name ∈ names ∧ valueNamed? r name unmask = some value := by
  rw [get?_valuesNamed, Option.ite_none_right_eq_some]

/-- It makes no difference in which order names are given, and how often. -/
theorem valuesNamed_congr_of_mem_iff {names names' : List String}
    (h : ∀ name, name ∈ names ↔ name ∈ names') (r : Record) (unmask : Bool) :
    valuesNamed r names unmask = valuesNamed r names' unmask := by
  refine Dict.ext_get? fun name => Option.ext fun value => ?_
  rw [get?_valuesNamed_eq_some_iff, get?_valuesNamed_eq_some_iff, h name]

/-- **The ways to a standard field agree**, for every record, in clear or not, and whether indices
are strict or not: a value that is shown of the whole record under a field type is the value by this
name, the value at the place of the field, whatever refers to the record, and the value under this
name among others. The values under several names are those that the names have one by one, so the
order of the names and their repetition make no difference. -/
theorem standard_field_ways_agree (r : Record) (unmask strict : Bool) :
    (∀ name value, (RecordView.ofRecord r unmask).fields.get? name = some value →
      valueNamed? r name unmask = some value ∧
        (∀ reference,
          valueAt strict r ⟨reference, .field ⟨name, none, none⟩⟩ unmask = .ok value) ∧
        ∀ names, name ∈ names → (valuesNamed r names unmask).get? name = some value) ∧
      (∀ names name value, (valuesNamed r names unmask).get? name = some value ↔
        name ∈ names ∧ valueNamed? r name unmask = some value) ∧
      ∀ names names', (∀ name, name ∈ names ↔ name ∈ names') →
        valuesNamed r names unmask = valuesNamed r names' unmask := by
  refine ⟨fun name value hshown => ?_, fun names name value => get?_valuesNamed_eq_some_iff,
    fun names names' h => valuesNamed_congr_of_mem_iff h r unmask⟩
  obtain ⟨field, hname, hfield, hdecode⟩ := exists_field_of_shown hshown
  have hnamed : valueNamed? r name unmask = some value :=
    valueNamed?_of_fieldOfType? hname hfield hdecode
  exact ⟨hnamed, valueAt_of_fieldOfType? hfield hdecode strict,
    fun names hmem => get?_valuesNamed_eq_some_iff.mpr ⟨hmem, hnamed⟩⟩

/-- A login whose password is a number, with a decoy before it that has the type of the password as
its label. -/
def numericLogin : Record :=
  { uid := "Nm1aaaaaaaaaaaaaaaaaaA"
    recordType := "login"
    fields :=
      [Samples.labelled "password" (Samples.textField "login" "decoy"),
        { fieldType := "password", values := [.num (.int 1234567)] }] }

/-- The password that is a number is found in all ways, and not the decoy. -/
theorem standard_field_ways_agree_numeric :
    let place : Locator := ⟨.title "Mail", .field ⟨"password", none, none⟩⟩
    let names := ["password", "pin", "password", "login"]
    (RecordView.ofRecord numericLogin false).fields.get? "password" = some (.text "123***567") ∧
      valueNamed? numericLogin "password" false = some (.text "123***567") ∧
      valueAt true numericLogin place false = .ok (.text "123***567") ∧
      (valuesNamed numericLogin names false).get? "password" = some (.text "123***567") ∧
      valuesNamed numericLogin names false =
        valuesNamed numericLogin ["login", "password", "pin"] false := by
  intro place names
  have hshown : (RecordView.ofRecord numericLogin false).fields.get? "password" =
      some (.text "123***567") := rfl
  obtain ⟨hways, -, hnames⟩ := standard_field_ways_agree numericLogin false true
  obtain ⟨hnamed, hplace, hamong⟩ := hways _ _ hshown
  have hsame : ∀ name, name ∈ names ↔ name ∈ ["login", "password", "pin"] := by
    intro name
    simp only [names, List.mem_cons, List.not_mem_nil, or_false]
    grind
  exact ⟨hshown, hnamed, hplace _, hamong names (by decide), hnames _ _ hsame⟩

end VaultLocator.Extraction
