import VaultLocator.Text.Numeral

/-!
# Locators

A locator says where in a vault a value is: in which record, under which field or file name, and,
within a field, at which element and in which part of it. Its written form is

    reference "/" kind "/" name [ "[" index "]" ] [ "[" property "]" ]

with the kinds `field`, `custom_field` and `file`; the name of a file is written as it is and has
neither index nor property. `VaultLocator.Locator.render` writes a locator;
`VaultLocator.Locator.parse` in `VaultLocator.Locator.Grammar` reads one.
-/

namespace VaultLocator

/-! ### References to records -/

/-- The least number of characters of a uid. -/
def uidMinLength : Nat := 16

/-- The greatest number of characters of a uid. -/
def uidMaxLength : Nat := 32

/-- Whether a character may stand in a uid: an ASCII letter or digit, the low line or the hyphen. -/
def isUidChar (c : Char) : Bool :=
  c.isAlphanum || c == '_' || c == '-'

/-- How a locator names its record. -/
inductive Reference
  /-- By its uid. -/
  | uid (text : String)
  /-- By its title. -/
  | title (text : String)
  deriving DecidableEq

namespace Reference

/-- Whether a text has the shape of a uid: the length of one, and only characters of one. -/
def isUidShaped (text : List Char) : Bool :=
  decide (uidMinLength ≤ text.length) && decide (text.length ≤ uidMaxLength) &&
    text.all isUidChar

/-- The reference that a text is: a uid if it has the shape of one, and a title otherwise. -/
def ofText (text : String) : Reference :=
  if isUidShaped text.toList then .uid text else .title text

/-- The written form of a reference. -/
def text : Reference → String
  | .uid s => s
  | .title s => s

/-- The uid that a reference names, if it names one. -/
def uid? : Reference → Option String
  | .uid s => some s
  | .title _ => none

/-- The title that a reference names, if it does not name a uid. -/
def title? : Reference → Option String
  | .uid _ => none
  | .title s => some s

end Reference

/-! ### Targets within a record -/

/-- What kind of thing a locator points at. -/
inductive Kind
  /-- A standard field, by its type. -/
  | field
  /-- A custom field, by its label. -/
  | customField
  /-- An attached file, by its name or title. -/
  | file
  deriving DecidableEq

namespace Kind

/-- The written form of a kind. -/
def spelling : Kind → String
  | .field => "field"
  | .customField => "custom_field"
  | .file => "file"

/-- The kind with a given written form. -/
def ofSpelling? (text : String) : Option Kind :=
  if text = "field" then some .field
  else if text = "custom_field" then some .customField
  else if text = "file" then some .file
  else none

/-- **Each kind is read from its own spelling alone.** -/
theorem ofSpelling?_eq_some_iff {text : String} {kind : Kind} :
    ofSpelling? text = some kind ↔ text = kind.spelling := by
  constructor
  · intro h
    rw [ofSpelling?] at h
    split at h
    · next ht => cases h; exact ht
    · split at h
      · next ht => cases h; exact ht
      · split at h
        · next ht => cases h; exact ht
        · cases h
  · rintro rfl
    cases kind <;> decide

end Kind

/-- What a locator selects within a field. -/
structure Selector where
  /-- The type or the label of the field. -/
  name : String
  /-- Which of the elements of the field; all of them, or the first, if there is no index. -/
  index : Option UInt64 := none
  /-- Which part of the element. -/
  property : Option String := none
  deriving DecidableEq

namespace Selector

/-- A text between brackets. -/
def bracketed (text : String) : String :=
  "[" ++ text ++ "]"

/-- The written form of a selector. -/
def render (s : Selector) : String :=
  s.name ++ (s.index.elim "" fun i => bracketed (Text.decimal i.toNat)) ++
    s.property.elim "" bracketed

/-- The name with the index of an element, as errors write it. -/
def elementText (s : Selector) (index : UInt64) : String :=
  s.name ++ bracketed (Text.decimal index.toNat)

/-- The name with the name of a part, as errors write it. -/
def partText (s : Selector) (property : String) : String :=
  s.name ++ bracketed property

end Selector

/-- What a locator points at within its record. -/
inductive Target
  | field (selector : Selector)
  | customField (selector : Selector)
  | file (name : String)
  deriving DecidableEq

/-- A place in a vault. -/
structure Locator where
  reference : Reference
  target : Target
  deriving DecidableEq

namespace Locator

/-- The kind of a locator. -/
def kind (l : Locator) : Kind :=
  match l.target with
  | .field _ => .field
  | .customField _ => .customField
  | .file _ => .file

/-- The selector of a locator that points at a field. -/
def selector? (l : Locator) : Option Selector :=
  match l.target with
  | .field selector => some selector
  | .customField selector => some selector
  | .file _ => none

/-- The file name of a locator that points at a file. -/
def fileName? (l : Locator) : Option String :=
  match l.target with
  | .file name => some name
  | _ => none

/-- The written form of what a locator points at within its record. -/
def payload (l : Locator) : String :=
  match l.target with
  | .field selector => selector.render
  | .customField selector => selector.render
  | .file name => name

/-- The written form of a locator. -/
def render (l : Locator) : String :=
  l.reference.text ++ "/" ++ l.kind.spelling ++ "/" ++ l.payload

end Locator

end VaultLocator
