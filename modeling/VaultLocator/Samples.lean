import VaultLocator.Record.Basic

/-!
# Sample records

A small vault to try things on: a login with an attached file, a payment card, a machine with
structured fields, a record of a type that is not listed anywhere, a record with labels that hide
what its custom fields hold, and two records with one title.
-/

namespace VaultLocator.Samples

/-- A field with one value, a text. -/
def textField (fieldType text : String) : StoredField :=
  { fieldType := fieldType, values := [.str text] }

/-- An object of texts. -/
def textObject (members : List (String × String)) : Json :=
  .obj (members.map fun member => (member.1, .str member.2))

/-- A field with a label. -/
def labelled (label : String) (field : StoredField) : StoredField :=
  { field with label := some label }

/-- A login with a token among its custom fields and an attached file. -/
def login : Record :=
  { uid := "NJ_xXSkk3xYI1h9ql5lAiQ"
    title := "Production Admin"
    recordType := "login"
    notes := "Rotated quarterly"
    fields :=
      [textField "login" "admin@example.com", textField "password" "Tr0ub4dor&3-horse",
        { fieldType := "url"
          values := [.str "https://console.example.com", .str "https://backup.example.com"] },
        { fieldType := "oneTimeCode" }]
    custom :=
      [labelled "API Token" (textField "text" "ghp_0123456789abcdef"),
        labelled "Region" (textField "text" "eu-central-1"),
        labelled "On Call"
          { fieldType := "phone"
            values :=
              [textObject [("number", "555-0100"), ("region", "US"), ("type", "Work")],
                textObject
                  [("ext", "12"), ("number", "555-0199"), ("region", "US"),
                    ("type", "Mobile")]] }]
    files :=
      [{ uid := "FiLe0000000000000000Aa"
         name := "runbook.pdf"
         title := "Runbook"
         size := 48213
         mimeType := "application/pdf" }] }

/-- A payment card with a security code, made of the parts of its field. -/
def cardField (securityCode : String) : StoredField :=
  { fieldType := "paymentCard"
    values :=
      [textObject
        [("cardExpirationDate", "12/25"), ("cardNumber", "4111111111111111"),
          ("cardSecurityCode", securityCode)]] }

/-- A payment card with the name and the address of its holder. -/
def paymentCard : Record :=
  { uid := "Pc8mRk2vXq0LwZ4nHs7TyA"
    title := "Corporate Visa"
    recordType := "bankCard"
    fields :=
      [cardField "123", labelled "Cardholder Name" (textField "text" "Ada Lovelace"),
        textField "pinCode" "9876",
        { fieldType := "address"
          values :=
            [textObject
              [("city", "Cupertino"), ("state", "CA"), ("street1", "1 Infinite Loop"),
                ("zip", "95014")]] }] }

/-- A machine with a host, connections, a schedule and a script. -/
def machine : Record :=
  { uid := "PmQ3zWv9Lk1Rt5Yx8Nc2Bg"
    title := "Bastion"
    recordType := "pamMachine"
    fields :=
      [{ fieldType := "pamHostname"
         values := [.obj [("hostName", .str "10.0.0.5"), ("port", .num (.int 22))]] },
        { fieldType := "pamSettings"
          values :=
            [.obj
              [("connection",
                  .arr [.obj [("protocol", .str "ssh"), ("recordingIncludeKeys", .bool false)]]),
                ("portForward",
                  .arr [.obj [("port", .str "2222"), ("reusePort", .bool true)]])]] },
        textField "login" "root", textField "password" "n0t-the-real-one",
        labelled "Rotate on use" { fieldType := "checkbox", values := [.bool true] }]
    custom :=
      [{ fieldType := "schedule"
         values := [textObject [("cron", "0 3 * * 0"), ("type", "CRON"), ("tz", "UTC")]] },
        { fieldType := "script"
          values :=
            [.obj
              [("command", .str "/opt/rotate.sh --host bastion"),
                ("fileRef", .str "ScRiPt00000000000000Aa"), ("recordRef", .arr [])]] }] }

/-- A record of a type that is not listed anywhere. -/
def unlisted : Record :=
  { uid := "Uk7Hd4Sf1Gj8Kl2Zx5Cv9B"
    title := "Experimental"
    recordType := "quantumKeyEscrow"
    fields :=
      [textField "login" "escrow-agent", textField "secret" "qk-0000-1111-2222",
        textField "entanglementId" "ignored"]
    custom := [labelled "Qubits" { fieldType := "text", values := [.num (.int 42)] }] }

/-- A record whose custom fields hold secrets under labels that do not say so. -/
def misleading : Record :=
  { uid := "Lb4cUsT0mFi3ldsRec0rdQ"
    title := "Ops Vault"
    recordType := "general"
    fields := [textField "login" "ops@example.com"]
    custom :=
      [labelled "Corporate Card" (cardField "987"),
        labelled "DB Creds" (textField "password" "hunter2hunter2")] }

/-- A login under a title that is not its own alone. -/
def sharedLogin (uid password : String) : Record :=
  { uid := uid
    title := "Shared Login"
    recordType := "login"
    fields := [textField "login" "shared@example.com", textField "password" password] }

/-- Two records with one title. -/
def homonyms : List Record :=
  [sharedLogin "Dp1aaaaaaaaaaaaaaaaaaA" "first-shared-password",
    sharedLogin "Dp2bbbbbbbbbbbbbbbbbbB" "second-shared-password"]

/-- All sample records. -/
def all : List Record :=
  [login, paymentCard, machine, unlisted, misleading] ++ homonyms

end VaultLocator.Samples
