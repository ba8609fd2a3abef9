import VaultLocator.Locator.Grammar
import VaultLocator.Vault.Basic

/-!
# A vault in memory

`VaultLocator.InMemoryVault` serves a list of records, or fails at every call with a given error.
Its native lookup works as that of a real vault: it refuses a reference that matches several
records, it looks for a standard field by type only, and it gives the element or the part that the
locator asks for rather than the whole field. Its state is the list of the locators that were
looked up, oldest first.
-/

namespace VaultLocator

/-- A vault in memory. -/
structure InMemoryVault where
  records : List Record := []
  /-- The error with which every call fails, if it does. -/
  failure : Option VaultError := none

namespace InMemoryVault

/-- The records, unless the vault fails. -/
def served (v : InMemoryVault) : Except VaultError (List Record) :=
  match v.failure with
  | some error => .error error
  | none => .ok v.records

/-- The field that a native lookup finds in a record. -/
def nativeField? (r : Record) : Target → Option StoredField
  | .field selector => r.fieldOfType? selector.name
  | .customField selector =>
    (r.customLabelled? selector.name).or (r.customOfType? selector.name)
  | .file _ => none

/-- The values that a selector takes from those of a field: the element at its index, or all of
them; and if there is a property, that member of the first of these. -/
def selectValues (selector : Selector) (values : List Json) : List Json :=
  let chosen :=
    match selector.index with
    | some index => values[index.toNat]?.toList
    | none => values
  match selector.property with
  | some property => (chosen.head?.bind (Json.member? property)).toList
  | none => chosen

/-- A native lookup in a record. -/
def lookupIn (text : String) (l : Locator) (r : Record) : Except VaultError FoundField :=
  match nativeField? r l.target, l.selector? with
  | some field, some selector =>
    match selectValues selector field.values with
    | [] => .error (.notFound text)
    | values => .ok ⟨field.fieldType, field.effectiveLabel, values⟩
  | _, _ => .error (.notFound text)

/-- A native lookup among records. -/
def lookupAmong (records : List Record) (text : String) : Except VaultError FoundField :=
  match Locator.parse text with
  | .error error => .error (.backend error.message)
  | .ok l =>
    match records.filter l.reference.names with
    | [] => .error (.recordNotFound l.reference.text)
    | [r] => lookupIn text l r
    | _ => .error (.ambiguous l.reference.text)

/-- A native lookup. -/
def lookup (v : InMemoryVault) (text : String) : Except VaultError FoundField := do
  let records ← v.served
  lookupAmong records text

/-- A vault in memory as a vault. -/
def toVault (v : InMemoryVault) : Vault (List String) :=
  { withUids := fun uids calls =>
      (v.served.map fun records => records.filter fun r => uids.contains r.uid, calls)
    everything := fun calls => (v.served, calls)
    lookup := fun text calls => (v.lookup text, calls ++ [text]) }

end InMemoryVault

end VaultLocator
