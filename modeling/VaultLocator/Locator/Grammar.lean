import VaultLocator.Locator.Basic
import VaultLocator.Text.Search

/-!
# Reading locators

`VaultLocator.Locator.parse` reads the written form of a locator. A text is cut at its first two
slashes into reference, kind and payload. The payload of a file is its name; that of a field ends
with at most two *bracket groups* – a text without brackets between brackets – of which the first
of two is an index and the second a property, while a single group is an index if it looks like a
number and a property otherwise. Only canonical numerals below `2 ^ 64` are indices, so that every
locator that is read is written back as it was.

A bracket group counts only if something stands before it and no line ends there; otherwise its
brackets belong to the name.
-/

namespace VaultLocator

/-- What is wrong with the layout of a text that should be a locator. -/
inductive Malformation
  /-- There is no slash. -/
  | noSeparator
  /-- Nothing stands before the first slash. -/
  | noReference
  /-- The last of two bracket groups of the payload is empty. -/
  | emptyProperty (payload : String)
  deriving DecidableEq

/-- Why a text is not a locator. -/
inductive GrammarError
  /-- The text is empty. -/
  | emptyInput
  /-- The text has not the layout of a locator. -/
  | malformed (what : Malformation)
  /-- What should be a kind is none. -/
  | unknownKind (segment : String)
  /-- No name follows the kind. -/
  | missingPayload (kind : Kind)
  /-- What should be an index is none. -/
  | invalidIndex (text : String)
  deriving DecidableEq

namespace Malformation

/-- The wording of a malformation. -/
def message : Malformation → String
  | .noSeparator => "expected <record>/<kind>/<payload>"
  | .noReference => "missing record reference"
  | .emptyProperty payload => "empty property in '" ++ payload ++ "'"

end Malformation

namespace GrammarError

/-- The wording of a grammar error. -/
def message : GrammarError → String
  | .emptyInput => "Empty input"
  | .malformed what => "Malformed notation: " ++ what.message
  | .unknownKind segment => "Unknown notation kind: " ++ segment
  | .missingPayload kind => "Missing payload after '" ++ kind.spelling ++ "'"
  | .invalidIndex text => "Invalid index: " ++ text

end GrammarError

namespace Locator

/-! ### The three parts of a locator -/

/-- The parts of a locator that is not yet understood. -/
structure Parts where
  reference : String
  kind : String
  payload : String
  deriving DecidableEq

/-- Cuts a text at its first two slashes; the payload is empty if there is only one. -/
def split (text : String) : Except GrammarError Parts :=
  if text.isEmpty then
    .error .emptyInput
  else
    match Text.cutAt '/' text.toList with
    | none => .error (.malformed .noSeparator)
    | some (reference, rest) =>
      match Text.cutAt '/' rest with
      | none => .ok ⟨String.ofList reference, String.ofList rest, ""⟩
      | some (kind, payload) =>
        .ok ⟨String.ofList reference, String.ofList kind, String.ofList payload⟩

/-- Whether a text has the kind of a file where a locator has its kind. -/
def isFileText (text : String) : Bool :=
  match split text with
  | .ok parts => parts.kind == Kind.file.spelling
  | .error _ => false

/-- Whether a text has the kind of a custom field where a locator has its kind. -/
def isCustomFieldText (text : String) : Bool :=
  match split text with
  | .ok parts => parts.kind == Kind.customField.spelling
  | .error _ => false

/-! ### Bracket groups -/

/-- Whether a character is one of the two brackets. -/
def isBracket (c : Char) : Bool :=
  c == '[' || c == ']'

/-- Takes the bracket group off the end of a text: what stands before it, and what it holds. -/
def trailingGroup? (text : List Char) : Option (List Char × List Char) :=
  match text.reverse with
  | ']' :: rest =>
    match rest.dropWhile fun c => !isBracket c with
    | '[' :: before => some (before.reverse, (rest.takeWhile fun c => !isBracket c).reverse)
    | _ => none
  | _ => none

/-- Whether a text may stand before a bracket group: it is not empty and on one line. -/
def isGroupName (text : List Char) : Bool :=
  !text.isEmpty && !text.contains '\n'

/-- The bracket group at the end of a text, if it stands after a name. -/
def namedGroup? (text : List Char) : Option (List Char × List Char) :=
  (trailingGroup? text).filter fun group => isGroupName group.1

/-- A payload with its bracket groups taken off. -/
inductive Groups
  /-- No group. -/
  | bare (name : List Char)
  /-- One group. -/
  | one (name inner : List Char)
  /-- Two groups. -/
  | two (name first second : List Char)
  deriving DecidableEq

/-- Takes the bracket groups off the end of a payload, two of them if that is possible. -/
def groups (payload : List Char) : Groups :=
  match trailingGroup? payload with
  | none => .bare payload
  | some (before, inner) =>
    match namedGroup? before with
    | some (name, first) => .two name first inner
    | none => if isGroupName before then .one before inner else .bare payload

/-! ### Reading -/

/-- Whether the text of a single bracket group is meant as an index: nothing but digits after at
most one sign, or nothing at all. -/
def isIndexLike (text : List Char) : Bool :=
  match text with
  | '-' :: digits => digits.all Char.isDigit
  | '+' :: digits => digits.all Char.isDigit
  | digits => digits.all Char.isDigit

/-- Reads an index: a canonical numeral below `2 ^ 64`. -/
def readIndex (text : List Char) : Except GrammarError UInt64 :=
  let value := Nat.ofDigitChars 10 text 0
  if Text.isCanonical text ∧ value < UInt64.size then
    .ok (UInt64.ofNat value)
  else
    .error (.invalidIndex (String.ofList text))

/-- Reads the payload of a locator that points at a field. -/
def readSelector (kind : Kind) (payload : List Char) : Except GrammarError Selector :=
  if payload.head? = some '[' then
    .error (.missingPayload kind)
  else
    match groups payload with
    | .bare name => .ok ⟨String.ofList name, none, none⟩
    | .one name inner =>
      if isIndexLike inner then do
        let index ← readIndex inner
        .ok ⟨String.ofList name, some index, none⟩
      else
        .ok ⟨String.ofList name, none, some (String.ofList inner)⟩
    | .two name first second => do
      let index ← readIndex first
      if second.isEmpty then
        .error (.malformed (.emptyProperty (String.ofList payload)))
      else
        .ok ⟨String.ofList name, some index, some (String.ofList second)⟩

/-- Reads the payload of a locator of a given kind. -/
def readTarget (kind : Kind) (payload : String) : Except GrammarError Target :=
  match kind with
  | .file => .ok (.file payload)
  | .field => (readSelector .field payload.toList).map .field
  | .customField => (readSelector .customField payload.toList).map .customField

/-- **Reading a locator.** -/
def parse (text : String) : Except GrammarError Locator := do
  let parts ← split text
  if parts.reference.isEmpty then
    .error (.malformed .noReference)
  else
    match Kind.ofSpelling? parts.kind with
    | none => .error (.unknownKind parts.kind)
    | some kind =>
      if parts.payload.isEmpty then
        .error (.missingPayload kind)
      else do
        let target ← readTarget kind parts.payload
        .ok ⟨.ofText parts.reference, target⟩

end Locator

end VaultLocator
