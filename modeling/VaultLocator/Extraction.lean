import VaultLocator.Record.Codec
import VaultLocator.Record.Schema
import VaultLocator.Vault.Basic

/-!
# Extracting values from records

One field that cannot be decoded never spoils an extraction. `VaultLocator.RecordView.ofRecord` and
`VaultLocator.Extraction.valuesNamed` leave it out; `VaultLocator.Extraction.valueNamed?` goes on
from a field of the type to one with the label; `VaultLocator.Extraction.valueAt` reports that there
is nothing of use at the place.

An index beyond the values of a field stands for the first value, unless indices are *strict*.
-/

namespace VaultLocator

namespace Extraction

/-! ### Whole records -/

/-- The decoded value of a field, if it can be decoded. -/
def decoded? (field : StoredField) (unmask : Bool) : Option ShownValue :=
  (field.decode unmask).toOption

/-- Enters a value under a name that is not taken yet, if there is a value. -/
def enterNew (values : Dict ShownValue) (name : String) (value : Option ShownValue) :
    Dict ShownValue :=
  match value with
  | some v => if values.contains name then values else values.insert name v
  | none => values

/-- The notes of a record, unless they are empty. -/
def notes? (r : Record) : Option String :=
  if r.notes.isEmpty then none else some r.notes

/-- The standard fields of some types that can be decoded. -/
def standardValues (r : Record) (unmask : Bool) (fieldTypes : List String) : Dict ShownValue :=
  fieldTypes.foldl
    (fun values fieldType =>
      enterNew values fieldType ((r.fieldOfType? fieldType).bind (decoded? · unmask)))
    Dict.empty

/-- The custom fields that can be decoded; of several with one heading the first of them. -/
def customValues (custom : List StoredField) (unmask : Bool) : Dict ShownValue :=
  custom.foldl (fun values field => enterNew values field.heading (decoded? field unmask))
    Dict.empty

/-- The JSON form of named values. -/
def valuesJson (values : Dict ShownValue) : Json :=
  .obj (values.entries.map fun entry => (entry.1, entry.2.toJson))

end Extraction

/-- All that can be extracted from a record. -/
structure RecordView where
  uid : String
  title : String
  recordType : String
  /-- The standard fields, by type. -/
  fields : Dict ShownValue
  /-- The custom fields, by label, or by type if they have none. -/
  custom : Dict ShownValue
  /-- The notes, unless they are empty. -/
  notes : Option String
  files : List FileSummary

/-- **Everything that can be extracted from a record.** -/
def RecordView.ofRecord (r : Record) (unmask : Bool) : RecordView :=
  { uid := r.uid
    title := r.title
    recordType := r.recordType
    fields := Extraction.standardValues r unmask (Schema.fieldTypes r.recordType)
    custom := Extraction.customValues r.custom unmask
    notes := Extraction.notes? r
    files := r.files.map Attachment.summary }

/-- The JSON form of what was extracted from a record. -/
def RecordView.toJson (view : RecordView) : Json :=
  .obj ([("uid", .str view.uid), ("title", .str view.title), ("type", .str view.recordType),
    ("fields", Extraction.valuesJson view.fields),
    ("custom", Extraction.valuesJson view.custom)] ++
      (view.notes.map fun notes => ("notes", Json.str notes)).toList ++
      [("files", .arr (view.files.map FileSummary.toJson))])

namespace Extraction

/-! ### Fields by name -/

/-- A field of a record by name: a standard field of that type, or a custom one if there is none,
and if the one that is there cannot be decoded, a field with that label. -/
def fieldNamed? (r : Record) (name : String) (unmask : Bool) : Option ShownValue :=
  (((r.fieldOfType? name).or (r.customOfType? name)).bind (decoded? · unmask)).or
    ((r.anyLabelled? name).bind (decoded? · unmask))

/-- A value of a record by name. The notes are the notes of the record, and the password is its own
password if that is a text; all other names are those of fields. -/
def valueNamed? (r : Record) (name : String) (unmask : Bool) : Option ShownValue :=
  if name = "notes" then
    (notes? r).map .text
  else if name = "password" then
    match r.ownPassword? with
    | some password => some (.text (Secret.shown unmask password))
    | none => fieldNamed? r name unmask
  else
    fieldNamed? r name unmask

/-- Values of a record by name; names without a value are left out. -/
def valuesNamed (r : Record) (names : List String) (unmask : Bool) : Dict ShownValue :=
  Dict.ofList (names.filterMap fun name =>
    (valueNamed? r name unmask).map fun value => (name, value))

/-! ### Places -/

/-- A part of a value, if a selector asks for one. -/
def project (selector : Selector) (value : ShownValue) : Except Error ShownValue :=
  match selector.property with
  | none => .ok value
  | some property =>
    match value.part? property with
    | some part => .ok part
    | none => .error (.fieldNotFound (selector.partText property))

/-- The decoded value, or the error that there is nothing of use under the name of a selector. -/
def orAbsent (selector : Selector) (result : Except Error ShownValue) :
    Except Error ShownValue :=
  result.mapError fun _ => .fieldNotFound selector.name

/-- The values of a field that a selector is about: the one at its index, or all of them. -/
def selectedValues (strict : Bool) (selector : Selector) (values : List Json) :
    Except Error (List Json) :=
  match selector.index with
  | none => .ok values
  | some index =>
    match values[index.toNat]? with
    | some value => .ok [value]
    | none =>
      if strict then .error (.fieldNotFound (selector.elementText index))
      else .ok (values.take 1)

/-- What a selector selects from a field, if there is a field. -/
def pick (strict : Bool) (field : Option StoredField) (selector : Selector) (unmask : Bool) :
    Except Error ShownValue :=
  match field with
  | none => .error (.fieldNotFound selector.name)
  | some field => do
    let values ← selectedValues strict selector field.values
    let value ← orAbsent selector
      (ShownValue.decode field.fieldType field.effectiveLabel unmask values)
    project selector value

/-- The field that a locator points at: a standard field is looked for by type, by label, and then
among the custom fields; a custom one by label, by type, and then among the standard fields. -/
def targetField? (r : Record) (custom : Bool) (name : String) : Option StoredField :=
  if custom then
    (((r.customLabelled? name).or (r.customOfType? name)).or (r.fieldOfType? name)).or
      (r.fieldLabelled? name)
  else
    (((r.fieldOfType? name).or (r.fieldLabelled? name)).or (r.customOfType? name)).or
      (r.customLabelled? name)

/-- **The value at a place of a record.** -/
def valueAt (strict : Bool) (r : Record) (l : Locator) (unmask : Bool) :
    Except Error ShownValue :=
  match l.target with
  | .file name =>
    match r.attachment? name with
    | some file => .ok (.file file.summary)
    | none => .error (.fieldNotFound name)
  | .field selector => pick strict (targetField? r false selector.name) selector unmask
  | .customField selector => pick strict (targetField? r true selector.name) selector unmask

/-! ### Native lookups -/

/-- A part of a scalar field that a vault found: its text, masked if the part, the type or the
label is sensitive. A truth value stays one. -/
def scalarPart (selector : Selector) (property : String) (found : FoundField) (unmask : Bool)
    (first : Json) : Except Error ShownValue :=
  match first with
  | .null => .error (.fieldNotFound selector.name)
  | .bool b => .ok (.bool b)
  | value =>
    let text := value.coerceText?.getD ""
    let secret := Secret.isSecretName property || ShownValue.isSecret found.fieldType found.label
    .ok (.text (if secret then Secret.shown unmask text else text))

/-- A part of a field that a vault found. The vault gives the part itself, so for a type with a
shape it is put back into an object under its name and decoded there. -/
def foundPart (selector : Selector) (property : String) (found : FoundField) (unmask : Bool) :
    Except Error ShownValue :=
  match found.values with
  | [] => .error (.fieldNotFound selector.name)
  | first :: _ =>
    if Shape.ofType found.fieldType = .scalar then
      scalarPart selector property found unmask first
    else do
      let value ← orAbsent selector
        (ShownValue.decode found.fieldType found.label unmask [.obj [(property, first)]])
      project selector value

/-- **The value that a vault found at a place**, decoded by the type and the label that the vault
reports. -/
def valueFound (l : Locator) (found : FoundField) (unmask : Bool) : Except Error ShownValue :=
  match l.target with
  | .file name => .error (.fieldNotFound name)
  | .field selector | .customField selector =>
    match selector.property with
    | none => orAbsent selector (ShownValue.decode found.fieldType found.label unmask found.values)
    | some property => foundPart selector property found unmask

end Extraction

end VaultLocator
