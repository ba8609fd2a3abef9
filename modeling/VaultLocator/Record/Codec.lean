import VaultLocator.Record.Basic

/-!
# Records as JSON

A record is written as an object (`VaultLocator.Record.toJson`) or, without the keys, as the list
of its members in a fixed order (`VaultLocator.Record.toPositional`), and so are its fields and
files. `VaultLocator.Record.ofJson?` reads both forms, also mixed. Members that are not known are
passed over, and a member that may be missing has a value that stands for it; what is there must be
of the right kind. Some members are known under two keys, of which only one may be used.
-/

namespace VaultLocator

/-! ### The members of a structure -/

/-- A member of a structure in its written form: the keys under which it is known. -/
abbrev MemberKeys := List String

/-- The member of an object under one of some keys: nothing if there is none, and a failure if
there is more than one. -/
def memberUnder? (members : List (String × Json)) (keys : MemberKeys) : Option (Option Json) :=
  match keys.filterMap fun key => Dict.find? key members with
  | [] => some none
  | [value] => some (some value)
  | _ => none

/-- The members of a structure that is written as an object or as the list of its members, in the
order of the structure. A list may break off, but not hold too much. -/
def membersOf? (structureKeys : List MemberKeys) : Json → Option (List (Option Json))
  | .obj members => structureKeys.mapM (memberUnder? members)
  | .arr items =>
    if items.length ≤ structureKeys.length then
      some (items.map some ++ List.replicate (structureKeys.length - items.length) none)
    else
      none
  | _ => none

/-- Reads a member that must be there. -/
def required? {α : Type} (read : Json → Option α) (found : Option Json) : Option α :=
  found.bind read

/-- Reads a member that may be missing. -/
def optional? {α : Type} (missing : α) (read : Json → Option α) (found : Option Json) : Option α :=
  match found with
  | none => some missing
  | some value => read value

/-- Reads a list, item by item. -/
def listOf? {α : Type} (read : Json → Option α) (value : Json) : Option (List α) :=
  value.items?.bind fun items => items.mapM read

/-- Reads a text for which null may stand. -/
def nullableText? : Json → Option (Option String)
  | .null => some none
  | .str s => some (some s)
  | _ => none

/-! ### Fields -/

namespace StoredField

/-- The members of a field. -/
def memberKeys : List MemberKeys :=
  [["type"], ["label"], ["value"]]

/-- A field as an object; a missing label is left out. -/
def toJson (field : StoredField) : Json :=
  .obj (("type", .str field.fieldType) ::
    ((field.label.map fun label => ("label", Json.str label)).toList ++
      [("value", .arr field.values)]))

/-- A field as the list of its members. -/
def toPositional (field : StoredField) : Json :=
  .arr [.str field.fieldType, Json.ofText? field.label, .arr field.values]

/-- Reads a field. -/
def ofJson? (value : Json) : Option StoredField := do
  let [fieldType, label, values] ← membersOf? memberKeys value | none
  some
    { fieldType := ← required? Json.text? fieldType
      label := ← optional? none nullableText? label
      values := ← optional? [] Json.items? values }

end StoredField

/-! ### Files -/

namespace Attachment

/-- The members of a file. -/
def memberKeys : List MemberKeys :=
  [["fileUid", "uid"], ["name"], ["title"], ["size"], ["type"]]

/-- A file as an object. -/
def toJson (file : Attachment) : Json :=
  .obj [("fileUid", .str file.uid), ("name", .str file.name), ("title", .str file.title),
    ("size", Json.ofSize file.size), ("type", .str file.mimeType)]

/-- A file as the list of its members. -/
def toPositional (file : Attachment) : Json :=
  .arr [.str file.uid, .str file.name, .str file.title, Json.ofSize file.size,
    .str file.mimeType]

/-- Reads a file. -/
def ofJson? (value : Json) : Option Attachment := do
  let [uid, name, title, size, mimeType] ← membersOf? memberKeys value | none
  some
    { uid := ← required? Json.text? uid
      name := ← optional? "" Json.text? name
      title := ← optional? "" Json.text? title
      size := ← optional? 0 Json.size? size
      mimeType := ← optional? "" Json.text? mimeType }

end Attachment

/-! ### Records -/

namespace Record

/-- The members of a record. -/
def memberKeys : List MemberKeys :=
  [["recordUid", "uid"], ["title"], ["type"], ["notes"], ["fields"], ["custom"], ["files"]]

/-- A record as an object. -/
def toJson (r : Record) : Json :=
  .obj [("recordUid", .str r.uid), ("title", .str r.title), ("type", .str r.recordType),
    ("notes", .str r.notes), ("fields", .arr (r.fields.map StoredField.toJson)),
    ("custom", .arr (r.custom.map StoredField.toJson)),
    ("files", .arr (r.files.map Attachment.toJson))]

/-- A record, its fields and its files as lists of their members. -/
def toPositional (r : Record) : Json :=
  .arr [.str r.uid, .str r.title, .str r.recordType, .str r.notes,
    .arr (r.fields.map StoredField.toPositional), .arr (r.custom.map StoredField.toPositional),
    .arr (r.files.map Attachment.toPositional)]

/-- **Reading a record**, in either form. -/
def ofJson? (value : Json) : Option Record := do
  let [uid, title, recordType, notes, fields, custom, files] ← membersOf? memberKeys value | none
  some
    { uid := ← required? Json.text? uid
      title := ← optional? "" Json.text? title
      recordType := ← optional? "" Json.text? recordType
      notes := ← optional? "" Json.text? notes
      fields := ← optional? [] (listOf? StoredField.ofJson?) fields
      custom := ← optional? [] (listOf? StoredField.ofJson?) custom
      files := ← optional? [] (listOf? Attachment.ofJson?) files }

end Record

end VaultLocator
