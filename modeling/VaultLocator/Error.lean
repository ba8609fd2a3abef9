import VaultLocator.Screening.Rejection

/-!
# Errors

Whatever can go wrong between a locator and its value. An error is *retryable* if the same request
may succeed later, which is so only when the vault could not be reached, and it *means absence* if
the request was sound but there is nothing at its place.
-/

namespace VaultLocator

/-- An error that a vault reports. -/
inductive VaultError
  /-- The reference matches several records. -/
  | ambiguous (reference : String)
  /-- The reference matches no record. -/
  | recordNotFound (reference : String)
  /-- The record has nothing at the place. -/
  | notFound (what : String)
  /-- The vault cannot be reached. -/
  | unavailable (detail : String)
  /-- Any other failure. -/
  | backend (detail : String)
  deriving DecidableEq

/-- The wording of a vault error. -/
def VaultError.message : VaultError → String
  | .ambiguous reference => "Ambiguous reference: " ++ reference
  | .recordNotFound reference => "No such record: " ++ reference
  | .notFound what => "Not found: " ++ what
  | .unavailable detail => "Vault unavailable: " ++ detail
  | .backend detail => "Backend error: " ++ detail

/-- A failure that has nothing to do with a particular vault or locator. -/
inductive Fault
  /-- A setting that makes no sense. -/
  | invalidConfig (detail : String)
  /-- An input that makes no sense. -/
  | invalidInput (detail : String)
  /-- A condition that should not occur. -/
  | internal (detail : String)
  deriving DecidableEq

/-- The wording of a fault. -/
def Fault.message : Fault → String
  | .invalidConfig detail => "Invalid configuration: " ++ detail
  | .invalidInput detail => "Invalid input: " ++ detail
  | .internal detail => "Internal error: " ++ detail

/-- An error on the way from a locator to its value. -/
inductive Error
  /-- The text is not a locator. -/
  | grammar (error : GrammarError)
  /-- An input does not pass its screening. -/
  | rejected (reason : Rejection)
  /-- No record matches the reference. -/
  | recordNotFound (reference : String)
  /-- The record has no such field, element, part or file, or its value is of no use. -/
  | fieldNotFound (what : String)
  /-- Several records match the reference. -/
  | ambiguousRecord (reference : String)
  /-- The values of a field have not the shape of its type. -/
  | unsupportedShape (fieldType : String)
  /-- The vault failed. -/
  | vault (error : VaultError)
  /-- A failure of another kind. -/
  | fault (f : Fault)
  deriving DecidableEq

namespace Error

/-- The wording of an error. -/
def message : Error → String
  | .grammar error => error.message
  | .rejected reason => "Validation rejected: " ++ reason.message
  | .recordNotFound reference => "Record not found: " ++ reference
  | .fieldNotFound what => "Field not found: " ++ what
  | .ambiguousRecord reference => "Ambiguous record reference: " ++ reference
  | .unsupportedShape fieldType => "Unsupported field shape for '" ++ fieldType ++ "'"
  | .vault error => error.message
  | .fault f => f.message

/-- Whether the same request may succeed later. -/
def isRetryable : Error → Bool
  | .vault (.unavailable _) => true
  | _ => false

/-- Whether the error means that there is nothing at the place. -/
def meansAbsence : Error → Bool
  | .recordNotFound _ | .fieldNotFound _ | .unsupportedShape _ => true
  | _ => false

/-- The error of a failed native lookup. -/
def ofLookup : VaultError → Error
  | .ambiguous reference => .ambiguousRecord reference
  | .recordNotFound reference => .recordNotFound reference
  | .notFound what => .fieldNotFound what
  | error => .vault error

end Error

end VaultLocator
