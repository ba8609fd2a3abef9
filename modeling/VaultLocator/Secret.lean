import VaultLocator.Text.Lowercase
import VaultLocator.Text.Search

/-!
# Secrets and their masks

A name – of a field type, a label, or a part of a structured value – is *sensitive* when one of a
list of keywords occurs in its lower-case form. A secret is *masked* by keeping its first and its
last three characters around three asterisks, or, if it has no more than six characters, by six
asterisks, which tell nothing of it.
-/

namespace VaultLocator.Secret

/-! ### Sensitive names -/

/-- The keywords that make a name sensitive, in lower case. -/
def keywords : List String :=
  ["password", "secret", "privatekey", "cardnumber", "accountnumber", "pin", "passphrase", "otp",
    "answer", "keypair", "bankaccount", "paymentcard", "routingnumber", "licensenumber", "token"]

/-- Whether a name denotes a secret. -/
def isSecretName (name : String) : Bool :=
  let lowered := Text.lowercase name.toList
  keywords.any fun keyword => Text.occurs keyword.toList lowered

/-! ### Masks -/

/-- The mask of a short secret. -/
def stars : List Char :=
  ['*', '*', '*', '*', '*', '*']

/-- The mask of a secret, as characters. -/
def maskChars (secret : List Char) : List Char :=
  if secret.length ≤ 6 then
    stars
  else
    secret.take 3 ++ ['*', '*', '*'] ++ secret.drop (secret.length - 3)

/-- The mask of a secret. -/
def mask (secret : String) : String :=
  String.ofList (maskChars secret.toList)

/-- The secret itself if it is asked for in clear, and its mask otherwise. -/
def shown (unmask : Bool) (secret : String) : String :=
  if unmask then secret else mask secret

/-- A text under a name: masked if the name is sensitive and the text is not asked for in clear. -/
def shownUnder (name : String) (unmask : Bool) (text : String) : String :=
  if isSecretName name then shown unmask text else text

/-- What stands for a secret that is hidden whole. -/
def redacted : String :=
  "[REDACTED]"

end VaultLocator.Secret
