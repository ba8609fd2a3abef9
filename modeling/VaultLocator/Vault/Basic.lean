import VaultLocator.Record.Basic

/-!
# Vaults

A vault is known by three operations: giving the records with certain uids, giving all records, and
looking a locator up natively. Each may fail. What a vault answers may change with use – it may
count its calls, or lose its connection – so every operation takes the state of the vault and gives
the state after it.
-/

namespace VaultLocator

/-- What a vault finds by its native lookup: the values after index and property are applied, with
the type and the label of the field to which they belong. -/
structure FoundField where
  fieldType : String
  label : Option String := none
  values : List Json

/-- A vault with states of type `σ`. -/
structure Vault (σ : Type) where
  /-- The records with the given uids; uids that are not known are passed over. -/
  withUids : List String → σ → Except VaultError (List Record) × σ
  /-- All records, in the order of the vault. -/
  everything : σ → Except VaultError (List Record) × σ
  /-- The field that a written locator leads to. The lookup is refused as ambiguous if several
  records match the reference. -/
  lookup : String → σ → Except VaultError FoundField × σ

end VaultLocator
