import Mathlib.Data.List.Nodup
import VaultLocator.Record.Schema

/-!
# Which field types are looked for

The table of record types only says what is expected of a record. Which field types are extracted is
said here without a look-up, by `VaultLocator.Schema.Covers`: those that are listed for the record
type, or every field type that can be decoded if the record type is not known.
`VaultLocator.Schema.mem_fieldTypes_iff` ties this to the table, which has no record type twice.

Every field type that is listed for some record type is one that can be decoded
(`VaultLocator.Schema.Covers.mem_allFieldTypes`), so a record of an unknown type is looked through
for all that a record of a known type would be.
-/

namespace VaultLocator.Schema

/-- **A field type is looked for in the records of a type.** -/
inductive Covers (recordType fieldType : String) : Prop
  /-- It is listed for the record type. -/
  | listed {fieldTypes : List String} : (recordType, fieldTypes) ∈ table →
      fieldType ∈ fieldTypes → Covers recordType fieldType
  /-- The record type is not known, and the field type can be decoded. -/
  | unknown : recordType ∉ names → fieldType ∈ allFieldTypes → Covers recordType fieldType

/-! ### The table -/

/-- No record type is in the table twice. -/
theorem nodup_recordTypes : (table.map Prod.fst).Nodup := by
  decide +kernel

/-- What is listed for a record type can be decoded. -/
theorem listed_subset : ∀ entry ∈ table, entry.2 ⊆ allFieldTypes := by
  decide +kernel

theorem mem_names_iff {recordType : String} :
    recordType ∈ names ↔ ∃ fieldTypes, (recordType, fieldTypes) ∈ table := by
  rw [names, List.mem_mergeSort, List.mem_map]
  constructor
  · rintro ⟨⟨_, fieldTypes⟩, hmem, rfl⟩
    exact ⟨fieldTypes, hmem⟩
  · rintro ⟨fieldTypes, hmem⟩
    exact ⟨_, hmem, rfl⟩

/-! ### What is expected of a record type -/

theorem expected?_eq_some_iff {recordType : String} {fieldTypes : List String} :
    expected? recordType = some fieldTypes ↔ (recordType, fieldTypes) ∈ table := by
  have hmem {types : List String} (h : expected? recordType = some types) :
      (recordType, types) ∈ table := by
    obtain ⟨before, after, happend, -⟩ := List.lookup_eq_some_iff.mp h
    rw [happend]
    exact List.mem_append_right before List.mem_cons_self
  refine ⟨hmem, fun h => ?_⟩
  cases hexpected : expected? recordType with
  | none =>
    have hne := List.lookup_eq_none_iff.mp hexpected _ h
    exact absurd hne (by simp)
  | some types =>
    -- What is found is an entry under the same key, and there is only one.
    have hentry := List.inj_on_of_nodup_map nodup_recordTypes (hmem hexpected) h rfl
    rw [(Prod.mk.inj hentry).2]

theorem expected?_eq_none_iff {recordType : String} :
    expected? recordType = none ↔ recordType ∉ names := by
  rw [mem_names_iff, Option.eq_none_iff_forall_not_mem, not_exists]
  exact forall_congr' fun types => not_congr expected?_eq_some_iff

/-- Of a record of an unknown type every field is extracted that can be decoded. -/
theorem fieldTypes_of_notMem {recordType : String} (h : recordType ∉ names) :
    fieldTypes recordType = allFieldTypes := by
  rw [fieldTypes, expected?_eq_none_iff.mpr h, Option.getD_none]

/-- **Which field types are extracted** from the records of a type. -/
theorem mem_fieldTypes_iff {recordType fieldType : String} :
    fieldType ∈ fieldTypes recordType ↔ Covers recordType fieldType := by
  constructor
  · intro h
    cases hexpected : expected? recordType with
    | none =>
      have hunknown := expected?_eq_none_iff.mp hexpected
      rw [fieldTypes_of_notMem hunknown] at h
      exact .unknown hunknown h
    | some types =>
      rw [fieldTypes, hexpected, Option.getD_some] at h
      exact .listed (expected?_eq_some_iff.mp hexpected) h
  · rintro (⟨hentry, hmem⟩ | ⟨hunknown, hmem⟩)
    · rw [fieldTypes, expected?_eq_some_iff.mpr hentry, Option.getD_some]
      exact hmem
    · rw [fieldTypes_of_notMem hunknown]
      exact hmem

/-- **What is looked for can be decoded**, whether the record type is known or not. -/
theorem Covers.mem_allFieldTypes {recordType fieldType : String}
    (h : Covers recordType fieldType) : fieldType ∈ allFieldTypes := by
  cases h with
  | listed hentry hmem => exact listed_subset _ hentry hmem
  | unknown _ hmem => exact hmem

end VaultLocator.Schema
