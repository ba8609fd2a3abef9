import VaultLocator.Json.Printer

/-!
# The audit trail

What is recorded when someone asks for a value: the place, the outcome and, after a refusal, the
reason, but never a value. An entry is written as a single line of JSON,
`VaultLocator.AuditEntry.toLine`, with an identifier and a time that whoever records it supplies;
or it is passed on to a log, `VaultLocator.AuditEntry.toLogLine`.
-/

namespace VaultLocator

/-- How severe an entry is. -/
inductive Severity
  | debug
  | info
  | warn
  | error
  deriving DecidableEq

/-- The written form of a severity. -/
def Severity.spelling : Severity → String
  | .debug => "DEBUG"
  | .info => "INFO"
  | .warn => "WARN"
  | .error => "ERROR"

/-- What an entry tells of. -/
inductive AuditKind
  /-- Someone asks for a value. -/
  | attempt
  /-- The value was given. -/
  | granted
  /-- The request was rejected, or there is nothing at the place. -/
  | denied
  /-- Something failed that should not. -/
  | failure
  /-- A notice. -/
  | notice
  deriving DecidableEq

/-- The written form of a kind. -/
def AuditKind.spelling : AuditKind → String
  | .attempt => "access_attempt"
  | .granted => "access_granted"
  | .denied => "access_denied"
  | .failure => "error"
  | .notice => "system"

/-- An entry of the trail, without the identifier and the time that it gets when it is recorded. -/
structure AuditEntry where
  kind : AuditKind
  severity : Severity
  message : String
  /-- The service that records the entry. -/
  service : String
  /-- Named texts: the place, the reason and the like. -/
  details : Dict String := Dict.empty

namespace AuditEntry

/-- An entry with one more detail; a detail under the same name is replaced. -/
def annotate (entry : AuditEntry) (name text : String) : AuditEntry :=
  { entry with details := entry.details.insert name text }

/-! ### The entries of an access -/

/-- Someone asks for what is at a place. -/
def attempt (service target : String) : AuditEntry :=
  (⟨.attempt, .info, "Secret access requested", service, Dict.empty⟩ :
    AuditEntry).annotate "target" target

/-- What is at a place was given, masked or in clear. -/
def granted (service target : String) (unmasked : Bool) : AuditEntry :=
  ((⟨.granted, .info, "Secret access granted", service, Dict.empty⟩ :
    AuditEntry).annotate "target" target).annotate "unmasked"
      (if unmasked then "true" else "false")

/-- What is at a place was not given, for a reason. -/
def denied (service target reason : String) : AuditEntry :=
  ((⟨.denied, .warn, "Secret access denied", service, Dict.empty⟩ :
    AuditEntry).annotate "target" target).annotate "reason" reason

/-- Something failed. -/
def failure (service message : String) : AuditEntry :=
  ⟨.failure, .error, message, service, Dict.empty⟩

/-- A notice. -/
def notice (service message : String) : AuditEntry :=
  ⟨.notice, .info, message, service, Dict.empty⟩

/-! ### Written forms -/

/-- The JSON form of the details of an entry. -/
def detailsJson (entry : AuditEntry) : Json :=
  .obj (entry.details.entries.map fun detail => (detail.1, Json.str detail.2))

/-- The JSON form of an entry with its identifier and its time. -/
def toJson (entry : AuditEntry) (id time : String) : Json :=
  .obj [("id", .str id), ("event_type", .str entry.kind.spelling),
    ("level", .str entry.severity.spelling), ("message", .str entry.message),
    ("service_id", .str entry.service), ("metadata", entry.detailsJson),
    ("timestamp", .str time)]

/-- An entry as a single line. -/
def toLine (entry : AuditEntry) (id time : String) : String :=
  (entry.toJson id time).render

/-- A line of a log: a severity and named texts. -/
structure LogLine where
  severity : Severity
  fields : List (String × String)

/-- An entry as a line of a log. A detail that the entry has not is a hyphen; the reason belongs to
warnings alone. -/
def toLogLine (entry : AuditEntry) : LogLine :=
  let detail := fun name => (entry.details.get? name).getD "-"
  ⟨entry.severity,
    [("event_type", entry.kind.spelling), ("locator", detail "target"),
      ("service", entry.service), ("message", entry.message)] ++
      if entry.severity = .warn then [("reason", detail "reason")] else []⟩

end AuditEntry

end VaultLocator
