import VaultLocator.Error
import VaultLocator.Field.Layout
import VaultLocator.Json.Printer
import VaultLocator.Secret

/-!
# Values of fields

`VaultLocator.ShownValue.decode` reads the raw values of a field by the shape of its type. It is
lenient: what is inside an object never makes it fail. Members that the layout does not know are
left out, texts are made of whatever stands where a text should be
(`VaultLocator.Json.coerceText?`), and entries of a list that are no objects are passed over.
Secrets are masked on the way unless they are asked for in clear.

A part of a structured value is taken from its JSON form, `VaultLocator.ShownValue.toJson`, by
`VaultLocator.ShownValue.part?`.
-/

namespace VaultLocator

namespace Json

/-- The text that a value is turned into where a text should be: an integer in digits, a double
with its fraction cut off, a truth value by its name, a list or object in its written form. Null
has no text. -/
def coerceText? : Json → Option String
  | .null => none
  | .bool true => some "true"
  | .bool false => some "false"
  | .num (.int i) => some (String.ofList (intChars i))
  | .num (.double d) =>
    some (String.ofList ((if d.isNegative then ['-'] else []) ++ Nat.toDigits 10 d.truncated))
  | .str s => some s
  | .arr items => some (Json.arr items).render
  | .obj members => some (Json.obj members).render

/-- The values of a list that should be there: none for no value, the items of an array, and any
other value as the only one. -/
def listed : Option Json → List Json
  | none => []
  | some .null => []
  | some (.arr items) => items
  | some value => [value]

end Json

/-! ### Parts of structured values -/

/-- Reads what is found under the key of a part. -/
def Reading.read (reading : Reading) (found : Option Json) : Option Json :=
  match reading with
  | .text => (found.bind Json.coerceText?).map .str
  | .texts => some (.arr ((Json.listed found).filterMap fun v => v.coerceText?.map .str))
  | .items => some (.arr (Json.listed found))
  | .raw =>
    match found with
    | some .null => none
    | _ => found

/-- What is shown of the value of a part to someone who may not see secrets. -/
def Secrecy.veil (secrecy : Secrecy) (value : Json) : Json :=
  match secrecy, value with
  | .clear, _ => value
  | .masked, .str s => .str (Secret.mask s)
  | .masked, _ => value
  | .redacted, _ => .str Secret.redacted

/-- The value of a part of an object, if it has one. -/
def Part.read (part : Part) (unmask : Bool) (members : List (String × Json)) : Option Json :=
  (part.reading.read (Dict.find? part.key members)).map fun value =>
    if unmask then value else part.secrecy.veil value

/-- Reads an object by a layout: the parts that have a value, in the order of the layout. -/
def Layout.read (layout : Layout) (unmask : Bool) (members : List (String × Json)) :
    List (String × Json) :=
  layout.parts.filterMap fun part => (part.read unmask members).map fun value => (part.key, value)

/-! ### Values -/

/-- What is told of an attached file. Its content is never read. -/
structure FileSummary where
  name : String
  title : String
  size : UInt64
  mimeType : String
  deriving DecidableEq

/-- The JSON form of a file summary. -/
def FileSummary.toJson (file : FileSummary) : Json :=
  .obj [("name", .str file.name), ("title", .str file.title), ("size", Json.ofSize file.size),
    ("type", .str file.mimeType)]

/-- A decoded value, masked or in clear. -/
inductive ShownValue
  | text (value : String)
  | bool (value : Bool)
  /-- The parts of a single object. -/
  | entry (layout : Layout) (members : List (String × Json))
  /-- The parts of each object of a list. -/
  | entries (layout : Layout) (list : List (List (String × Json)))
  | file (summary : FileSummary)
  /-- A part that is neither a text nor a truth value. -/
  | raw (value : Json)

namespace ShownValue

/-- The JSON form of a value. -/
def toJson : ShownValue → Json
  | .text s => .str s
  | .bool b => .bool b
  | .entry _ members => .obj members
  | .entries _ list => .arr (list.map .obj)
  | .file summary => summary.toJson
  | .raw value => value

/-- The text of a value that is one. -/
def text? : ShownValue → Option String
  | .text s => some s
  | _ => none

/-- The value that a part is, unless it is null. -/
def ofPart? : Json → Option ShownValue
  | .null => none
  | .str s => some (.text s)
  | .bool b => some (.bool b)
  | value => some (.raw value)

/-- A part of a value; of a list, a part of its first entry. -/
def part? (value : ShownValue) (name : String) : Option ShownValue :=
  let object :=
    match value.toJson with
    | .arr items => items.head?
    | object => some object
  (object.bind (Json.member? name)).bind ofPart?

/-- Reads an object by a layout. -/
def readObject? (layout : Layout) (unmask : Bool) : Json → Option (List (String × Json))
  | .obj members => some (layout.read unmask members)
  | _ => none

/-- Whether a scalar field is masked: its type or its label is sensitive. -/
def isSecret (fieldType : String) (label : Option String) : Bool :=
  Secret.isSecretName fieldType || label.any Secret.isSecretName

/-- Reads raw values by a layout: all objects of a list, or else the first value. -/
def decodeStructured? (layout : Layout) (unmask : Bool) (values : List Json) (first : Json) :
    Option ShownValue :=
  if layout.isList then
    match values.filterMap (readObject? layout unmask) with
    | [] => none
    | list => some (.entries layout list)
  else
    (readObject? layout unmask first).map (.entry layout)

/-- Reads raw values, the first of which is given, by the shape of the type of their field. -/
def decodeShaped? (fieldType : String) (label : Option String) (unmask : Bool)
    (values : List Json) (first : Json) : Option ShownValue :=
  match Shape.ofType fieldType with
  | .structured layout => decodeStructured? layout unmask values first
  | .boolean =>
    match first with
    | .bool b => some (.bool b)
    | _ => none
  | .scalar =>
    first.coerceText?.map fun text =>
      .text (if isSecret fieldType label then Secret.shown unmask text else text)

/-- **Decoding**: reads the raw values of a field by its type, and masks what is secret unless it
is asked for in clear. -/
def decode (fieldType : String) (label : Option String) (unmask : Bool) (values : List Json) :
    Except Error ShownValue :=
  match values with
  | [] => .error (.fieldNotFound fieldType)
  | first :: _ =>
    match decodeShaped? fieldType label unmask values first with
    | some value => .ok value
    | none => .error (.unsupportedShape fieldType)

end ShownValue

end VaultLocator
