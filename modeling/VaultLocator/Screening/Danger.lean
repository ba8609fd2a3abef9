import VaultLocator.Text.Blank
import VaultLocator.Text.Fold
import VaultLocator.Text.Search
import VaultLocator.Text.WordChar

/-!
# Dangerous constructs

What a screened text must not hold. Each construct is described by what it looks like where it
starts – `VaultLocator.Danger.opensCommand`, `VaultLocator.Danger.opensTraversal` and so on – and a
text holds it if it starts somewhere in it. Words are met without regard to case.
-/

namespace VaultLocator.Danger

open Text

/-- Whether a text starts with one of some words, up to case. -/
def startsWithAny (words : List String) (text : List Char) : Bool :=
  words.any fun word => startsWithWord word.toList text

/-- Whether a text starts with one of some words, up to case, and what follows the word has a
property. -/
def startsWithAnyThen (words : List String) (p : List Char → Bool) (text : List Char) : Bool :=
  words.any fun word =>
    match afterWord word.toList text with
    | some rest => p rest
    | none => false

/-! ### Commands and paths -/

/-- Whether a character alone makes a shell run or redirect a command. -/
def isCommandChar (c : Char) : Bool :=
  c == ';' || c == '|' || c == '&' || c == '\x60' || c == '<' || c == '>' || c == '\n' ||
    c == '\r' || c == '\x00'

/-- Whether a text starts with a construct by which a shell would run a command: one of the command
characters, or a dollar sign with an opening parenthesis or brace. -/
def opensCommand : List Char → Bool
  | [] => false
  | c :: rest =>
    isCommandChar c || (c == '$' && (rest.head? == some '(' || rest.head? == some '\x7b'))

/-- Whether a text holds a construct by which a shell would run a command. -/
def hasCommandInjection (text : List Char) : Bool :=
  anySuffix opensCommand text

/-- The spellings of a step to a parent directory, plain and percent-encoded, up to case. -/
def traversalSpellings : List String :=
  ["../", "..\\", "%2e%2e", "%252e%252e", "..%2f", "..%5c"]

/-- Whether a text starts with a step to a parent directory or a null character. -/
def opensTraversal (text : List Char) : Bool :=
  startsWithAny traversalSpellings text || text.head? == some '\x00'

/-- Whether a character separates the segments of a path. -/
def isPathSeparator (c : Char) : Bool :=
  c == '/' || c == '\\'

/-- Whether a text, taken as a path, holds a step to a parent directory: one of the spellings
anywhere, or a whole segment of two dots. -/
def hasPathTraversal (text : List Char) : Bool :=
  anySuffix opensTraversal text ||
    (segments isPathSeparator text).any fun segment => segment == ['.', '.']

/-- Whether a shell treats a character in a path specially. -/
def isPathMetacharacter (c : Char) : Bool :=
  [';', '|', '&', '$', '\x60', '(', ')', '\x7b', '\x7d', '<', '>'].contains c

/-! ### Invisible characters -/

/-- Whether a text holds a format character, or a control character other than the tab. -/
def hasUnicodeControl (text : List Char) : Bool :=
  text.any fun c => isFormat c || (isControl c && c != '\t')

/-! ### Queries -/

/-- The spellings that only occur in a query language of tables. -/
def sqlSpellings : List String :=
  ["--", "/*", "*/", "union", "select", "drop", "insert", "delete", "update", "exec", "truncate",
    "alter"]

/-- Whether a text starts with the closing of a literal, an alternative and the opening of another
literal, with blanks between them. -/
def opensAlternative : List Char → Bool
  | '\'' :: rest =>
    match afterWord ['o', 'r'] (trimStart rest) with
    | some rest => (trimStart rest).head? == some '\''
    | none => false
  | _ => false

/-- Whether a text holds what belongs to a query of tables. -/
def hasSqlInjection (text : List Char) : Bool :=
  anySuffix (fun rest => startsWithAny sqlSpellings rest || opensAlternative rest) text

/-- The spellings that break out of a directory filter. -/
def ldapSpellings : List String :=
  ["*)(", ")(|", ")(&"]

/-- Whether a text holds what breaks out of a directory filter. -/
def hasLdapInjection (text : List Char) : Bool :=
  ldapSpellings.any fun spelling => occurs spelling.toList text

/-- The operators of a query of documents; in a query a dollar sign stands before them. -/
def noSqlOperators : List String :=
  ["ne", "regex", "gt", "gte", "lt", "lte", "where", "or", "and", "in", "nin", "exists"]

/-- Whether a text starts with an operator of a query of documents, as a whole word. -/
def opensNoSqlOperator : List Char → Bool
  | '$' :: rest => startsWithAnyThen noSqlOperators endsWord rest
  | _ => false

/-- Whether a text holds an operator of a query of documents. -/
def hasNoSqlInjection (text : List Char) : Bool :=
  anySuffix opensNoSqlOperator text

/-! ### Markup -/

/-- Whether a text starts with a tag: an opening angle bracket and, with no other angle bracket
between them, a closing one. -/
def opensTag : List Char → Bool
  | '<' :: rest => (rest.dropWhile fun c => c != '<' && c != '>').head? == some '>'
  | _ => false

/-- The names of the elements that bring scripts or foreign content into a page. -/
def activeElements : List String :=
  ["script", "iframe", "img", "svg", "object", "embed", "style", "link", "meta"]

/-- Whether a text starts with the opening of an active element, whether or not it is closed. -/
def opensActiveElement : List Char → Bool
  | '<' :: rest =>
    let rest := trimStart rest
    let name := if rest.head? == some '/' then trimStart (rest.drop 1) else rest
    startsWithAnyThen activeElements endsWord name
  | _ => false

/-- Spellings that run a script or write a character by its name or number. -/
def activeSpellings : List String :=
  ["javascript:", "vbscript:", "data:text/html", "&lt;", "&#"]

/-- The events that a page can answer with a script. -/
def pageEvents : List String :=
  ["error", "load", "click", "mouseover", "focus", "blur", "submit", "change"]

/-- Whether a text that stands after the character `before` starts with an assignment to the
handler of an event. -/
def opensHandler (before : Option Char) (text : List Char) : Bool :=
  !before.any isWordChar &&
    startsWithAnyThen ["on"]
      (startsWithAnyThen pageEvents fun rest => (trimStart rest).head? == some '=') text

/-- Whether a text holds markup. -/
def hasMarkup (text : List Char) : Bool :=
  anySuffixAfter
    (fun before rest =>
      opensTag rest || opensActiveElement rest || startsWithAny activeSpellings rest ||
        opensHandler before rest)
    none text

end VaultLocator.Danger
