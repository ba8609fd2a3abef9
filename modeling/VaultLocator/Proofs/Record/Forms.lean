import Mathlib.Data.List.Forall2
import VaultLocator.Record.Codec

/-!
# The written forms of a record

A record may be written in many ways: as an object or as the list of its members, with its fields
and its files written in either way each on its own; and an object may have its members in any order
and other members besides. `VaultLocator.Record.Form` describes all of these at once, without the
reader and without the two writers. Both writers produce forms of the record
(`VaultLocator.Record.form_toJson`, `VaultLocator.Record.form_toPositional`), and the reader reads
every form as the record (`VaultLocator.Record.ofJson?_of_form`), so nothing is lost by writing a
record and reading it back.

The reader asks an object for nothing but what it has under the known keys, so objects that agree
there are read alike (`VaultLocator.membersOf?_congr`). That leaves one object for each structure
to be read, the one that is written.
-/

namespace VaultLocator

/-! ### Reading members -/

/-- **Two values have the same members** under the keys of a structure. -/
def Json.AgreesUnder (structureKeys : List MemberKeys) (value value' : Json) : Prop :=
  ∀ keys ∈ structureKeys, ∀ key ∈ keys, value.member? key = value'.member? key

section Members

variable {members members' : List (String × Json)}

theorem memberUnder?_congr {keys : MemberKeys}
    (h : ∀ key ∈ keys, Dict.find? key members = Dict.find? key members') :
    memberUnder? members keys = memberUnder? members' keys := by
  rw [memberUnder?, memberUnder?, List.filterMap_congr h]

/-- **Objects that agree under the keys of a structure are read alike.** -/
theorem membersOf?_congr {structureKeys : List MemberKeys}
    (h : (Json.obj members).AgreesUnder structureKeys (.obj members')) :
    membersOf? structureKeys (.obj members) = membersOf? structureKeys (.obj members') := by
  rw [membersOf?, membersOf?]
  induction structureKeys with
  | nil => rfl
  | cons keys rest ih =>
    obtain ⟨hkeys, hrest⟩ := List.forall_mem_cons.mp h
    rw [List.mapM_cons, List.mapM_cons, memberUnder?_congr hkeys, ih hrest]

/-- A list is read if each of its items is. -/
theorem listOf?_arr {α : Type} {read : Json → Option α} {items : List α} {values : List Json}
    (h : List.Forall₂ (fun item value => read value = some item) items values) :
    listOf? read (.arr values) = some items := by
  change values.mapM read = some items
  induction h with
  | nil => rfl
  | cons hitem _ ih =>
    rw [List.mapM_cons, hitem, ih]
    rfl

end Members

/-! ### Fields -/

namespace StoredField

variable {field : StoredField}

/-- **The forms of a field**: an object that has under the keys of a field what is written of this
one, or the list of the members. -/
inductive Form (field : StoredField) : Json → Prop
  | object {members : List (String × Json)} :
      (Json.obj members).AgreesUnder memberKeys field.toJson → Form field (.obj members)
  | list : Form field field.toPositional

theorem ofJson?_toJson (field : StoredField) : ofJson? field.toJson = some field := by
  obtain ⟨fieldType, label, values⟩ := field
  cases label <;> rfl

theorem ofJson?_toPositional (field : StoredField) : ofJson? field.toPositional = some field := by
  obtain ⟨fieldType, label, values⟩ := field
  cases label <;> rfl

/-- Every form of a field is read as the field. -/
theorem ofJson?_of_form {value : Json} (h : field.Form value) : ofJson? value = some field := by
  cases h with
  | object hmembers =>
    rw [← ofJson?_toJson field, ofJson?, ofJson?, membersOf?_congr hmembers]
    rfl
  | list => exact field.ofJson?_toPositional

theorem form_toJson (field : StoredField) : field.Form field.toJson :=
  .object fun _ _ _ _ => rfl

end StoredField

/-! ### Files -/

/-- A 64-bit integer is read from the number that it is written as. -/
theorem Json.size?_ofSize (n : UInt64) : (ofSize n).size? = some n := by
  have hlt : (n.toNat : Int) < UInt64.size := Int.ofNat_lt.mpr n.toNat_lt
  rw [ofSize, size?, if_pos ⟨Int.natCast_nonneg _, hlt⟩, Int.toNat_natCast, UInt64.ofNat_toNat]

namespace Attachment

variable {file : Attachment}

/-- **The forms of a file**: an object that has under the keys of a file what is written of this
one, or the list of the members. -/
inductive Form (file : Attachment) : Json → Prop
  | object {members : List (String × Json)} :
      (Json.obj members).AgreesUnder memberKeys file.toJson → Form file (.obj members)
  | list : Form file file.toPositional

theorem ofJson?_toJson (file : Attachment) : ofJson? file.toJson = some file := by
  -- All members but the size are texts, which are read as they are.
  have hread (size : Json) :
      ofJson? (.obj [("fileUid", .str file.uid), ("name", .str file.name),
        ("title", .str file.title), ("size", size), ("type", .str file.mimeType)]) =
        size.size?.bind fun size => some { file with size := size } := rfl
  rw [toJson, hread, Json.size?_ofSize, Option.bind_some]

theorem ofJson?_toPositional (file : Attachment) : ofJson? file.toPositional = some file :=
  file.ofJson?_toJson

/-- Every form of a file is read as the file. -/
theorem ofJson?_of_form {value : Json} (h : file.Form value) : ofJson? value = some file := by
  cases h with
  | object hmembers =>
    rw [← ofJson?_toJson file, ofJson?, ofJson?, membersOf?_congr hmembers]
    rfl
  | list => exact file.ofJson?_toPositional

theorem form_toJson (file : Attachment) : file.Form file.toJson :=
  .object fun _ _ _ _ => rfl

end Attachment

/-! ### Records -/

namespace Record

/-- A record as an object, with its fields and its files written as given. -/
def objectWith (r : Record) (fields custom files : List Json) : Json :=
  .obj [("recordUid", .str r.uid), ("title", .str r.title), ("type", .str r.recordType),
    ("notes", .str r.notes), ("fields", .arr fields), ("custom", .arr custom),
    ("files", .arr files)]

/-- A record as the list of its members, with its fields and its files written as given. -/
def listWith (r : Record) (fields custom files : List Json) : Json :=
  .arr [.str r.uid, .str r.title, .str r.recordType, .str r.notes, .arr fields, .arr custom,
    .arr files]

/-- **The fields and the files of a record are written** in forms of theirs. -/
structure Contents (r : Record) (fields custom files : List Json) : Prop where
  fields : List.Forall₂ StoredField.Form r.fields fields
  custom : List.Forall₂ StoredField.Form r.custom custom
  files : List.Forall₂ Attachment.Form r.files files

/-- **The forms of a record**: an object that has under the keys of a record what is written of this
one, or the list of the members, with any forms of its fields and files. -/
inductive Form (r : Record) : Json → Prop
  | object {fields custom files : List Json} {members : List (String × Json)} :
      r.Contents fields custom files →
      (Json.obj members).AgreesUnder memberKeys (r.objectWith fields custom files) →
      Form r (.obj members)
  | list {fields custom files : List Json} : r.Contents fields custom files →
      Form r (r.listWith fields custom files)

variable {r : Record} {fields custom files : List Json}

/-- A record is read from an object if its fields and files are read from what they are written
as. -/
theorem ofJson?_objectWith (h : r.Contents fields custom files) :
    ofJson? (r.objectWith fields custom files) = some r := by
  have hfields := listOf?_arr (h.fields.imp fun _ _ => StoredField.ofJson?_of_form)
  have hcustom := listOf?_arr (h.custom.imp fun _ _ => StoredField.ofJson?_of_form)
  have hfiles := listOf?_arr (h.files.imp fun _ _ => Attachment.ofJson?_of_form)
  have hread : ofJson? (r.objectWith fields custom files) =
      (listOf? StoredField.ofJson? (.arr fields)).bind fun standard =>
        (listOf? StoredField.ofJson? (.arr custom)).bind fun custom =>
          (listOf? Attachment.ofJson? (.arr files)).bind fun files =>
            some { r with fields := standard, custom := custom, files := files } := rfl
  rw [hread, hfields, hcustom, hfiles]
  rfl

/-- **Every form of a record is read as the record.** -/
theorem ofJson?_of_form {value : Json} (h : r.Form value) : ofJson? value = some r := by
  cases h with
  | object hcontents hmembers =>
    rw [← ofJson?_objectWith hcontents, ofJson?, ofJson?, membersOf?_congr hmembers]
    rfl
  | list hcontents =>
    -- The list has the members of the object in the order of the keys.
    exact ofJson?_objectWith hcontents

/-! ### What is written -/

theorem contents_toJson (r : Record) : r.Contents (r.fields.map StoredField.toJson)
    (r.custom.map StoredField.toJson) (r.files.map Attachment.toJson) where
  fields := List.forall₂_map_right_iff.mpr (List.forall₂_same.mpr fun f _ => f.form_toJson)
  custom := List.forall₂_map_right_iff.mpr (List.forall₂_same.mpr fun f _ => f.form_toJson)
  files := List.forall₂_map_right_iff.mpr (List.forall₂_same.mpr fun f _ => f.form_toJson)

theorem contents_toPositional (r : Record) : r.Contents (r.fields.map StoredField.toPositional)
    (r.custom.map StoredField.toPositional) (r.files.map Attachment.toPositional) where
  fields := List.forall₂_map_right_iff.mpr (List.forall₂_same.mpr fun _ _ => .list)
  custom := List.forall₂_map_right_iff.mpr (List.forall₂_same.mpr fun _ _ => .list)
  files := List.forall₂_map_right_iff.mpr (List.forall₂_same.mpr fun _ _ => .list)

/-- The object that is written of a record is a form of it. -/
theorem form_toJson (r : Record) : r.Form r.toJson :=
  .object r.contents_toJson fun _ _ _ _ => rfl

/-- So is the list of its members. -/
theorem form_toPositional (r : Record) : r.Form r.toPositional :=
  .list r.contents_toPositional

/-- **A record is read back from whatever it is written as**: from the object, from the list of its
members, and from any of its forms, in which both occur and members have any order. -/
theorem ofJson?_written (r : Record) :
    ofJson? r.toJson = some r ∧ ofJson? r.toPositional = some r ∧
      ∀ value, r.Form value → ofJson? value = some r :=
  ⟨ofJson?_of_form r.form_toJson, ofJson?_of_form r.form_toPositional, fun _ => ofJson?_of_form⟩

/-- An object with its members in the order of their keys and one that is not known, with a field
written as a list and a file of the greatest size. -/
theorem ofJson?_written_backup :
    let r : Record :=
      { uid := "Gr1aaaaaaaaaaaaaaaaaaA", title := "Backup",
        fields := [{ fieldType := "checkbox", values := [.bool true] }],
        files := [{ uid := "f1", name := "dump.sql", size := 18446744073709551615 }] }
    let field : Json := .arr [.str "checkbox", .null, .arr [.bool true]]
    let file : Json :=
      .obj [("fileUid", .str "f1"), ("name", .str "dump.sql"),
        ("size", .ofSize 18446744073709551615), ("title", .str ""), ("type", .str "")]
    ofJson? (.obj [("custom", .arr []), ("fields", .arr [field]), ("files", .arr [file]),
      ("notes", .str ""), ("recordUid", .str "Gr1aaaaaaaaaaaaaaaaaaA"),
      ("revision", .num (.int 7)), ("title", .str "Backup"), ("type", .str "")]) = some r := by
  intro r field file
  obtain ⟨-, -, hform⟩ := ofJson?_written r
  have hfile : Attachment.Form ⟨"f1", "dump.sql", "", 18446744073709551615, ""⟩ file := by
    refine .object ?_
    simp [Json.AgreesUnder, Attachment.memberKeys, Attachment.toJson, Json.member?, Dict.find?]
  have hcontents : r.Contents [field] [] [file] := ⟨.cons .list .nil, .nil, .cons hfile .nil⟩
  refine hform _ (.object hcontents ?_)
  simp [Json.AgreesUnder, memberKeys, objectWith, Json.member?, Dict.find?, r]

end Record

end VaultLocator
