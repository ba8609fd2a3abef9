import VaultLocator.Locator.Grammar

/-!
# Reasons to reject an input

Every text that a caller supplies is screened for its purpose before it is used. A
`VaultLocator.Rejection` says which rule a text breaks and, where the rule is one of several
purposes, of which `VaultLocator.Subject` the text was.
-/

namespace VaultLocator

/-- What a screened text is for. -/
inductive Subject
  | uid
  | token
  | profileName
  | filePath
  | locator
  | searchQuery
  | title
  | notes
  | url
  | username
  deriving DecidableEq

/-- The name of a subject in messages. -/
def Subject.wording : Subject → String
  | .uid => "uid"
  | .token => "token"
  | .profileName => "profile name"
  | .filePath => "file path"
  | .locator => "notation"
  | .searchQuery => "search query"
  | .title => "title"
  | .notes => "notes"
  | .url => "url"
  | .username => "username"

/-- Why a text is rejected. -/
inductive Rejection
  | empty (subject : Subject)
  | tooShort (subject : Subject) (min actual : Nat)
  | tooLong (subject : Subject) (max actual : Nat)
  /-- The text holds a character that is not allowed. -/
  | invalidCharset (subject : Subject)
  /-- The text has not the layout that it should have. -/
  | invalidFormat (subject : Subject) (detail : String)
  /-- The text holds a construct by which a shell would run a command. -/
  | commandInjection (subject : Subject)
  /-- The text holds a step to a parent directory, plain or encoded. -/
  | pathTraversal (subject : Subject)
  | nullByte (subject : Subject)
  /-- The text holds a character that a shell treats specially, or a control character. -/
  | shellMetacharacters (subject : Subject)
  | reservedName (name : String)
  | invalidRegion (region : String)
  | dangerousScheme (scheme : String)
  /-- The text holds what looks like a tag, an entity or a script. -/
  | markup (subject : Subject)
  /-- The text holds a format or control character. -/
  | unicodeControl (subject : Subject)
  | sqlInjection (subject : Subject)
  | ldapInjection (subject : Subject)
  | noSqlInjection (subject : Subject)
  /-- The text is not a locator. -/
  | grammar (error : GrammarError)
  deriving DecidableEq

/-- The wording of a rejection. -/
def Rejection.message : Rejection → String
  | .empty subject => subject.wording ++ " must not be empty"
  | .tooShort subject min actual =>
    subject.wording ++ " too short: " ++ Text.decimal actual ++ " chars (min " ++
      Text.decimal min ++ ")"
  | .tooLong subject max actual =>
    subject.wording ++ " too long: " ++ Text.decimal actual ++ " chars (max " ++
      Text.decimal max ++ ")"
  | .invalidCharset subject => subject.wording ++ " contains invalid characters"
  | .invalidFormat subject detail => subject.wording ++ " has invalid format: " ++ detail
  | .commandInjection subject => subject.wording ++ " contains command injection characters"
  | .pathTraversal subject => subject.wording ++ " contains path traversal"
  | .nullByte subject => subject.wording ++ " contains a null byte"
  | .shellMetacharacters subject => subject.wording ++ " contains shell metacharacters"
  | .reservedName name => "profile name '" ++ name ++ "' is reserved"
  | .invalidRegion region => "unknown token region '" ++ region ++ "'"
  | .dangerousScheme scheme => "URL scheme '" ++ scheme ++ "' is not allowed"
  | .markup subject => subject.wording ++ " contains markup"
  | .unicodeControl subject => subject.wording ++ " contains unicode control characters"
  | .sqlInjection subject => subject.wording ++ " contains SQL injection patterns"
  | .ldapInjection subject => subject.wording ++ " contains LDAP injection patterns"
  | .noSqlInjection subject => subject.wording ++ " contains NoSQL injection patterns"
  | .grammar error => "invalid notation: " ++ error.message

end VaultLocator
