import VaultLocator.Field.Value
import VaultLocator.Locator.Basic

/-!
# Records

A record as the vault delivers it: its standard fields, by type, its custom fields, by label, and
what is known of its attached files. The values of a field are raw JSON. Every lookup gives the
first match in the order of the record.
-/

namespace VaultLocator

/-- A field of a record. -/
structure StoredField where
  fieldType : String
  label : Option String := none
  /-- The values; a field with several values has several elements. -/
  values : List Json := []

namespace StoredField

/-- The label of a field, if it has one that is not empty. -/
def effectiveLabel (field : StoredField) : Option String :=
  field.label.filter fun label => !label.isEmpty

/-- The name of a field for people: its label, or else its type. -/
def heading (field : StoredField) : String :=
  field.effectiveLabel.getD field.fieldType

/-- The decoded value of a field. -/
def decode (field : StoredField) (unmask : Bool) : Except Error ShownValue :=
  ShownValue.decode field.fieldType field.effectiveLabel unmask field.values

end StoredField

/-- What is known of an attached file. -/
structure Attachment where
  uid : String
  name : String := ""
  title : String := ""
  /-- The size in bytes. -/
  size : UInt64 := 0
  mimeType : String := ""
  deriving DecidableEq

/-- What is told of an attached file. -/
def Attachment.summary (file : Attachment) : FileSummary :=
  ⟨file.name, file.title, file.size, file.mimeType⟩

/-- A record of a vault. -/
structure Record where
  uid : String
  title : String := ""
  recordType : String := ""
  notes : String := ""
  /-- The standard fields. -/
  fields : List StoredField := []
  /-- The custom fields. -/
  custom : List StoredField := []
  files : List Attachment := []

namespace Record

/-! ### Building -/

/-- A record with one more standard field. -/
def addField (r : Record) (field : StoredField) : Record :=
  { r with fields := r.fields ++ [field] }

/-- A record with one more custom field. -/
def addCustom (r : Record) (field : StoredField) : Record :=
  { r with custom := r.custom ++ [field] }

/-- A record with one more attached file. -/
def addFile (r : Record) (file : Attachment) : Record :=
  { r with files := r.files ++ [file] }

/-- A record with other notes. -/
def setNotes (r : Record) (notes : String) : Record :=
  { r with notes := notes }

/-! ### Looking up -/

/-- The first standard field of a type. -/
def fieldOfType? (r : Record) (fieldType : String) : Option StoredField :=
  r.fields.find? fun field => field.fieldType == fieldType

/-- The first custom field of a type. -/
def customOfType? (r : Record) (fieldType : String) : Option StoredField :=
  r.custom.find? fun field => field.fieldType == fieldType

/-- The first standard field with a label. -/
def fieldLabelled? (r : Record) (label : String) : Option StoredField :=
  r.fields.find? fun field => field.effectiveLabel == some label

/-- The first custom field with a label. -/
def customLabelled? (r : Record) (label : String) : Option StoredField :=
  r.custom.find? fun field => field.effectiveLabel == some label

/-- The first field with a label, a standard one before a custom one. -/
def anyLabelled? (r : Record) (label : String) : Option StoredField :=
  (r.fieldLabelled? label).or (r.customLabelled? label)

/-- The password of a record: the first value of its password field, if that is a text. -/
def ownPassword? (r : Record) : Option String :=
  (r.fieldOfType? "password").bind fun field => field.values.head?.bind Json.text?

/-- The first attached file with a name, or else the first with a title. -/
def attachment? (r : Record) (name : String) : Option Attachment :=
  (r.files.find? fun file => file.name == name).or (r.files.find? fun file => file.title == name)

end Record

/-- Whether a reference names a record. A uid may also be the title of a record. -/
def Reference.names (reference : Reference) (r : Record) : Bool :=
  match reference with
  | .uid text => r.uid == text || r.title == text
  | .title text => r.title == text

end VaultLocator
