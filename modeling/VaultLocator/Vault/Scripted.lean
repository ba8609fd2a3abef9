import VaultLocator.Vault.Basic

/-!
# A vault that follows a script

`VaultLocator.ScriptedVault` answers each of the three operations of a vault with a reply that is
settled beforehand, so that a gateway can be met with replies that no honest vault would give:
records that were not asked for, or a native lookup that tells of a field in no record.
-/

namespace VaultLocator

/-- A vault whose replies are settled beforehand, whatever is asked of it. -/
structure ScriptedVault where
  /-- The reply to every native lookup. -/
  found : Except VaultError FoundField
  /-- The reply when all records are asked for. -/
  records : Except VaultError (List Record)
  /-- Whether all records are given rather than those with the uids that are asked for. -/
  loose : Bool := false

/-- A scripted vault as a vault, which has no state. -/
def ScriptedVault.toVault (v : ScriptedVault) : Vault Unit :=
  { withUids := fun uids _ =>
      (v.records.map fun records =>
        if v.loose then records else records.filter fun r => uids.contains r.uid, ())
    everything := fun _ => (v.records, ())
    lookup := fun _ _ => (v.found, ()) }

end VaultLocator
