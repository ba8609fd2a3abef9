import VaultLocator.Screening.Danger
import VaultLocator.Screening.Rejection

/-!
# Screening rules

One rule for each purpose of a text. A rule accepts a text or gives the first reason to reject it;
it never changes the text. Lengths count characters.
-/

namespace VaultLocator.Screening

/-! ### Building blocks -/

/-- Rejects if a condition holds. -/
def refuse (condition : Bool) (reason : Rejection) : Except Rejection Unit :=
  if condition then .error reason else .ok ()

/-- A condition is passed exactly when it does not hold. -/
theorem refuse_eq_ok_iff {condition : Bool} {reason : Rejection} :
    refuse condition reason = .ok () ↔ condition = false := by
  cases condition <;> simp [refuse]

/-- A text of at least `min` characters; an empty text has a reason of its own. -/
def checkMin (subject : Subject) (min : Nat) (text : List Char) : Except Rejection Unit := do
  refuse (text.length == 0 && 0 < min) (.empty subject)
  refuse (text.length < min) (.tooShort subject min text.length)

/-- A text of at most `max` characters. -/
def checkMax (subject : Subject) (max : Nat) (text : List Char) : Except Rejection Unit :=
  refuse (max < text.length) (.tooLong subject max text.length)

/-- A text without constructs by which a shell would run a command. -/
def checkCommand (subject : Subject) (text : List Char) : Except Rejection Unit :=
  refuse (Danger.hasCommandInjection text) (.commandInjection subject)

/-- A text that people read: bounded, and without markup, commands and invisible characters. -/
def checkProse (subject : Subject) (max : Nat) (text : List Char) : Except Rejection Unit := do
  checkMax subject max text
  refuse (Danger.hasMarkup text) (.markup subject)
  checkCommand subject text
  refuse (Danger.hasUnicodeControl text) (.unicodeControl subject)

/-! ### Identifiers -/

/-- The uid of a record. -/
def checkUid (uid : String) : Except Rejection Unit := do
  let text := uid.toList
  checkCommand .uid text
  checkMin .uid uidMinLength text
  checkMax .uid uidMaxLength text
  refuse (!text.all isUidChar) (.invalidCharset .uid)

/-- The regions whose tokens are accepted. -/
def regions : List String :=
  ["US", "EU", "AU", "JP", "CA", "GOV"]

/-- Whether a text has the alphabet of a token: characters of a uid, at least one, and at most two
equals signs after them. -/
def isTokenPayload (text : List Char) : Bool :=
  (text.head?.any isUidChar) &&
    [[], ['='], ['=', '=']].contains (text.dropWhile isUidChar)

/-- A one-time access token: a region, a colon and a payload. -/
def checkToken (token : String) : Except Rejection Unit := do
  refuse token.isEmpty (.empty .token)
  match Text.cutAt ':' token.toList with
  | none => .error (.invalidFormat .token "expected REGION:payload")
  | some (region, payload) =>
    refuse (!regions.contains (String.ofList region)) (.invalidRegion (String.ofList region))
    checkMin .token 20 payload
    refuse (!isTokenPayload payload) (.invalidCharset .token)

/-- Names of profiles that are taken, in lower case. -/
def takenProfileNames : List String :=
  ["default", "system", "root", "admin", "config", "test"]

/-- The name of a configuration profile. -/
def checkProfileName (name : String) : Except Rejection Unit := do
  let text := name.toList
  checkMin .profileName 1 text
  checkMax .profileName 64 text
  refuse (!text.all fun c => isUidChar c || c == '.') (.invalidCharset .profileName)
  refuse (takenProfileNames.contains (String.ofList (text.map Char.toLower)))
    (.reservedName name)

/-! ### Places -/

/-- A path in a file system. It may be absolute, but not step upwards. -/
def checkFilePath (path : String) : Except Rejection Unit := do
  let text := path.toList
  refuse path.isEmpty (.empty .filePath)
  refuse (text.contains '\x00') (.nullByte .filePath)
  refuse (Danger.hasPathTraversal text) (.pathTraversal .filePath)
  refuse (text.any Danger.isPathMetacharacter || text.any Text.isControl)
    (.shellMetacharacters .filePath)

/-- A locator. Two dots next to each other are rejected wherever they stand. -/
def checkLocator (locator : String) : Except Rejection Unit := do
  let text := locator.toList
  refuse locator.isEmpty (.empty .locator)
  checkCommand .locator text
  refuse (Text.occurs ['.', '.'] text || Danger.hasPathTraversal text) (.pathTraversal .locator)
  match Locator.parse locator with
  | .ok _ => .ok ()
  | .error error => .error (.grammar error)

/-- The schemes of addresses that are never followed, in lower case. -/
def dangerousSchemes : List String :=
  ["javascript:", "data:", "vbscript:", "file:"]

/-- The address of a site. -/
def checkUrl (url : String) : Except Rejection Unit := do
  let text := url.toList
  checkMax .url 2048 text
  let lowered := (Text.trimStart text).map Char.toLower
  match dangerousSchemes.find? fun scheme => scheme.toList.isPrefixOf lowered with
  | some scheme => .error (.dangerousScheme scheme)
  | none => checkCommand .url text

/-! ### Texts and queries -/

/-- What to search for among the titles of records. -/
def checkSearchQuery (query : String) : Except Rejection Unit := do
  let text := query.toList
  checkMax .searchQuery 256 text
  checkCommand .searchQuery text
  refuse (Danger.hasSqlInjection text) (.sqlInjection .searchQuery)
  refuse (Danger.hasLdapInjection text) (.ldapInjection .searchQuery)
  refuse (Danger.hasNoSqlInjection text) (.noSqlInjection .searchQuery)

/-- The title of a record, or the name or label of a field. -/
def checkTitle (title : String) : Except Rejection Unit :=
  checkProse .title 255 title.toList

/-- The notes of a record. -/
def checkNotes (notes : String) : Except Rejection Unit :=
  checkProse .notes 10000 notes.toList

/-- The characters that have a meaning in a directory filter. -/
def filterChars : List Char :=
  ['*', '(', ')', '\\', '/', '\x00']

/-- The name under which someone logs in. -/
def checkUsername (username : String) : Except Rejection Unit := do
  let text := username.toList
  checkMax .username 255 text
  checkCommand .username text
  refuse (text.any filterChars.contains) (.ldapInjection .username)

end VaultLocator.Screening
