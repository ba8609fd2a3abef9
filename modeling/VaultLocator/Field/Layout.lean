import VaultLocator.Json.Value

/-!
# Shapes of fields

The type of a field decides how its raw values are read. Most types are *scalar*, two are
*boolean*, and the others have a *layout*: a list of parts, each with the key under which it is
found in an object, the way in which its raw value is read, and how much of it may be shown. A
layout whose fields are lists has an entry for each element; the others have a single entry.

The table `VaultLocator.Layout.parts` is all that the decoder knows of a layout, so what holds of
every table holds of every layout.
-/

namespace VaultLocator

/-- How the raw value of a part is read. Null is the same as no value throughout. -/
inductive Reading
  /-- As a text; other values are turned into texts. The part may be absent. -/
  | text
  /-- As a list of texts, empty if there is no value; a value that is no list is a list of one. -/
  | texts
  /-- As a list of raw values, empty if there is no value; a value that is no list is a list of
  one. -/
  | items
  /-- As it is. The part may be absent. -/
  | raw
  deriving DecidableEq

/-- How much of a part is shown to someone who may not see secrets. -/
inductive Secrecy
  /-- All of it. -/
  | clear
  /-- Its mask. -/
  | masked
  /-- That there is one. -/
  | redacted
  deriving DecidableEq

/-- A part of a structured value. -/
structure Part where
  key : String
  reading : Reading := .text
  secrecy : Secrecy := .clear
  deriving DecidableEq

/-- The layouts of structured values. -/
inductive Layout
  | paymentCard
  | address
  | phone
  | bankAccount
  | keyPair
  | host
  | name
  | securityQuestion
  | pamResources
  | pamSettings
  | pamRemoteBrowserSettings
  | script
  | passkey
  | appFiller
  | schedule
  deriving DecidableEq

namespace Layout

/-- The parts of a layout, in the order in which they are written. -/
def parts : Layout → List Part
  | .paymentCard =>
    [⟨"cardNumber", .text, .masked⟩, ⟨"cardExpirationDate", .text, .clear⟩,
      ⟨"cardSecurityCode", .text, .masked⟩]
  | .address =>
    [⟨"street1", .text, .clear⟩, ⟨"street2", .text, .clear⟩, ⟨"city", .text, .clear⟩,
      ⟨"state", .text, .clear⟩, ⟨"country", .text, .clear⟩, ⟨"zip", .text, .clear⟩]
  | .phone =>
    [⟨"region", .text, .clear⟩, ⟨"number", .text, .clear⟩, ⟨"ext", .text, .clear⟩,
      ⟨"type", .text, .clear⟩]
  | .bankAccount =>
    [⟨"accountType", .text, .clear⟩, ⟨"routingNumber", .text, .masked⟩,
      ⟨"accountNumber", .text, .masked⟩, ⟨"otherType", .text, .clear⟩]
  | .keyPair => [⟨"publicKey", .text, .clear⟩, ⟨"privateKey", .text, .masked⟩]
  | .host => [⟨"hostName", .text, .clear⟩, ⟨"port", .text, .clear⟩]
  | .name => [⟨"first", .text, .clear⟩, ⟨"middle", .text, .clear⟩, ⟨"last", .text, .clear⟩]
  | .securityQuestion => [⟨"question", .text, .clear⟩, ⟨"answer", .text, .masked⟩]
  | .pamResources =>
    [⟨"controllerUid", .text, .clear⟩, ⟨"folderUid", .text, .clear⟩,
      ⟨"resourceRef", .texts, .clear⟩, ⟨"allowedSettings", .raw, .clear⟩]
  | .pamSettings => [⟨"portForward", .items, .clear⟩, ⟨"connection", .items, .clear⟩]
  | .pamRemoteBrowserSettings => [⟨"connection", .raw, .clear⟩]
  | .script =>
    [⟨"fileRef", .text, .clear⟩, ⟨"command", .text, .masked⟩, ⟨"recordRef", .texts, .clear⟩]
  | .passkey =>
    [⟨"credentialId", .text, .clear⟩, ⟨"userId", .text, .clear⟩,
      ⟨"relyingParty", .text, .clear⟩, ⟨"username", .text, .clear⟩,
      ⟨"createdDate", .raw, .clear⟩, ⟨"signCount", .raw, .clear⟩,
      ⟨"privateKey", .raw, .redacted⟩]
  | .appFiller =>
    [⟨"applicationTitle", .text, .clear⟩, ⟨"contentFilter", .text, .clear⟩,
      ⟨"macroSequence", .text, .masked⟩]
  | .schedule =>
    [⟨"type", .text, .clear⟩, ⟨"cron", .text, .clear⟩, ⟨"time", .text, .clear⟩,
      ⟨"tz", .text, .clear⟩, ⟨"weekday", .text, .clear⟩, ⟨"intervalCount", .raw, .clear⟩]

/-- Whether a field of a layout is a list with an entry for each element. -/
def isList : Layout → Bool
  | .pamResources | .script | .passkey | .appFiller | .schedule => true
  | _ => false

end Layout

/-- How the values of a field are read. -/
inductive Shape
  /-- The first element, as a text. -/
  | scalar
  /-- The first element, as a truth value. -/
  | boolean
  /-- Objects with the parts of a layout. -/
  | structured (layout : Layout)
  deriving DecidableEq

namespace Shape

/-- The field types that are not scalar, each with its shape. -/
def table : List (String × Shape) :=
  [("paymentCard", .structured .paymentCard), ("bankCard", .structured .paymentCard),
    ("address", .structured .address), ("phone", .structured .phone),
    ("bankAccount", .structured .bankAccount), ("keyPair", .structured .keyPair),
    ("host", .structured .host), ("pamHostname", .structured .host),
    ("name", .structured .name), ("securityQuestion", .structured .securityQuestion),
    ("pamResources", .structured .pamResources), ("pamSettings", .structured .pamSettings),
    ("pamRemoteBrowserSettings", .structured .pamRemoteBrowserSettings),
    ("script", .structured .script), ("passkey", .structured .passkey),
    ("appFiller", .structured .appFiller), ("schedule", .structured .schedule),
    ("isSSIDHidden", .boolean), ("checkbox", .boolean)]

/-- The shape of a field type. -/
def ofType (fieldType : String) : Shape :=
  (table.lookup fieldType).getD .scalar

end Shape

end VaultLocator
