import VaultLocator.Error
import VaultLocator.Text.Blank

/-!
# Settings

The settings of a gateway and of logging, read from named texts such as the variables of an
environment. A name that is not set leaves its default in place.
-/

namespace VaultLocator

/-- Named texts: the text under a name, if the name is set. -/
abbrev Environment := String → Option String

/-- Reads a truth value, in any case and with blanks around it. -/
def readFlag (key raw : String) : Except Fault Bool :=
  let flag := String.ofList ((Text.trim raw.toList).map Char.toLower)
  if ["true", "1", "yes", "on"].contains flag then .ok true
  else if ["false", "0", "no", "off"].contains flag then .ok false
  else .error (.invalidConfig (key ++ " must be a boolean, got '" ++ flag ++ "'"))

/-- Reads a truth value from an environment. -/
def Environment.flag (env : Environment) (key : String) (default : Bool) : Except Fault Bool :=
  match env key with
  | some raw => readFlag key raw
  | none => .ok default

/-! ### Gateways -/

/-- The settings of a gateway. -/
structure AccessSettings where
  /-- Whether an index beyond the values of a field is an error. -/
  strictIndex : Bool := false
  /-- The service that is named in the audit trail. -/
  service : String := "ksm-notation"
  /-- Whether an audit trail is kept. -/
  audits : Bool := true
  deriving DecidableEq

/-- Whether a text is nothing but blanks. -/
def isBlankText (text : String) : Bool :=
  text.toList.all Text.isBlank

/-- The settings of a gateway in an environment. A service of blanks is as good as none. -/
def AccessSettings.ofEnvironment (env : Environment) : Except Fault AccessSettings := do
  let default : AccessSettings := {}
  let strictIndex ← env.flag "KSM_STRICT_INDEX" default.strictIndex
  let service := ((env "KSM_SERVICE_ID").filter fun id => !isBlankText id).getD default.service
  let audits ← env.flag "KSM_AUDIT_ENABLED" default.audits
  .ok ⟨strictIndex, service, audits⟩

/-! ### Logging -/

/-- The settings of logging. -/
structure LogSettings where
  /-- The service that is named in the log. -/
  service : String := "ksm-notation"
  /-- Which messages are logged. -/
  level : String := "info"
  /-- Whether the log is written as JSON. -/
  json : Bool := false
  deriving DecidableEq

/-- The settings of logging in an environment. -/
def LogSettings.ofEnvironment (env : Environment) : Except Fault LogSettings := do
  let default : LogSettings := {}
  let json ← env.flag "KSM_LOG_JSON" default.json
  .ok ⟨default.service, (env "KSM_LOG_LEVEL").getD default.level, json⟩

end VaultLocator
