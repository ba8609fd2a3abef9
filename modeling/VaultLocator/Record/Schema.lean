/-!
# What records of a type hold

Which field types a record of a known type is expected to carry, in the order in which they are
extracted. The table only advises: a record of a type that it does not know is extracted with every
field type that can be decoded, and no record is refused for its type.
-/

namespace VaultLocator.Schema

/-- Every field type that can be decoded, in the order of extraction. -/
def allFieldTypes : List String :=
  ["login", "password", "url", "email", "oneTimeCode", "text", "multiline", "secret", "note",
    "name", "phone", "address", "birthDate", "expirationDate", "date", "paymentCard", "bankCard",
    "bankAccount", "accountNumber", "licenseNumber", "pinCode", "keyPair", "host", "pamHostname",
    "securityQuestion", "databaseType", "directoryType", "wifiEncryption", "isSSIDHidden",
    "checkbox", "pamResources", "pamSettings", "pamRemoteBrowserSettings", "script", "passkey",
    "appFiller", "schedule"]

/-- The known record types, each with the field types expected of it. -/
def table : List (String × List String) :=
  [("login", ["login", "password", "url", "oneTimeCode", "passkey", "appFiller"]),
    ("bankAccount", ["bankAccount", "name", "login", "password", "url", "oneTimeCode"]),
    ("bankCard", ["paymentCard", "text", "pinCode", "address"]),
    ("birthCertificate", ["name", "birthDate"]),
    ("contact", ["name", "text", "email", "phone", "address"]),
    ("databaseCredentials", ["databaseType", "host", "login", "password"]),
    ("driverLicense", ["accountNumber", "name", "birthDate", "address", "expirationDate"]),
    ("encryptedNotes", ["note", "date"]),
    ("file", []),
    ("healthInsurance", ["accountNumber", "name", "login", "password", "url"]),
    ("membership", ["accountNumber", "name", "password"]),
    ("passport", ["accountNumber", "name", "birthDate", "expirationDate", "date", "password"]),
    ("photo", []),
    ("serverCredentials", ["host", "login", "password"]),
    ("softwareLicense", ["licenseNumber", "expirationDate", "date"]),
    ("sshKeys", ["login", "keyPair", "password", "host"]),
    ("ssnCard", ["accountNumber", "name"]),
    ("address", ["address"]),
    ("general", ["login", "password", "url", "email", "oneTimeCode", "securityQuestion"]),
    ("wifiCredentials", ["text", "password", "isSSIDHidden", "wifiEncryption"]),
    ("pamMachine",
      ["pamHostname", "pamSettings", "login", "password", "secret", "text", "checkbox"]),
    ("pamDatabase",
      ["pamHostname", "pamSettings", "databaseType", "login", "password", "checkbox", "text"]),
    ("pamDirectory",
      ["pamHostname", "pamSettings", "directoryType", "login", "password", "checkbox", "text"]),
    ("pamUser",
      ["login", "password", "secret", "text", "checkbox", "oneTimeCode", "script", "schedule"]),
    ("pamRemoteBrowser", ["url", "pamRemoteBrowserSettings"]),
    ("pamNetworkConfiguration", ["text", "pamResources", "schedule"]),
    ("pamAwsConfiguration", ["text", "secret", "pamResources", "schedule"]),
    ("pamAzureConfiguration", ["text", "secret", "pamResources", "schedule"]),
    ("pamGcpConfiguration", ["text", "secret", "pamResources", "schedule"]),
    ("pamDomainConfiguration", ["pamHostname", "login", "password", "pamResources", "schedule"])]

/-- The field types expected of a record type, if the type is known. -/
def expected? (recordType : String) : Option (List String) :=
  table.lookup recordType

/-- The field types to extract from a record of a type: those expected of it, or all of them if the
type is not known. -/
def fieldTypes (recordType : String) : List String :=
  (expected? recordType).getD allFieldTypes

/-- The names of the known record types, in the order of their characters. -/
def names : List String :=
  (table.map (·.1)).mergeSort fun a b => decide (a ≤ b)

end VaultLocator.Schema
