/-!
# Words of a shell

`VaultLocator.Shell.quote` writes a text as a single word of a shell: between single quotes, each
quote of the text itself written outside of them with a backslash. `VaultLocator.Shell.words`
reads a line back into its words by the rules of the shell – single quotes keep everything up to
the next quote, a backslash outside of quotes keeps the next character, and blanks outside of
quotes end a word.
-/

namespace VaultLocator.Shell

/-! ### Quoting -/

/-- A character between single quotes. A quote ends the quoted part, stands escaped, and starts the
quoted part again. -/
def quoteChar (c : Char) : List Char :=
  if c = '\'' then ['\'', '\\', '\'', '\''] else [c]

/-- A text as a single word. -/
def quote (text : String) : String :=
  String.ofList ('\'' :: (text.toList.flatMap quoteChar ++ ['\'']))

/-! ### Splitting a line -/

/-- Whether a character outside of quotes ends a word. -/
def isSeparator (c : Char) : Bool :=
  c == ' ' || c == '\t' || c == '\n'

/-- How far the reading of a word has come; its characters are collected last first. -/
inductive Mode
  /-- Between two words. -/
  | between
  /-- In a word, outside of quotes. -/
  | plain (chars : List Char)
  /-- In a word, after a backslash outside of quotes. -/
  | escaped (chars : List Char)
  /-- In a word, between single quotes. -/
  | single (chars : List Char)

/-- The words of a line, read in a given mode; nothing if a quote or a backslash is left open. -/
def wordsFrom : Mode → List Char → Option (List (List Char))
  | .between, [] => some []
  | .plain chars, [] => some [chars.reverse]
  | .escaped _, [] => none
  | .single _, [] => none
  | .single chars, c :: rest =>
    if c = '\'' then wordsFrom (.plain chars) rest else wordsFrom (.single (c :: chars)) rest
  | .escaped chars, c :: rest => wordsFrom (.plain (c :: chars)) rest
  | .between, c :: rest =>
    if isSeparator c then wordsFrom .between rest
    else if c = '\'' then wordsFrom (.single []) rest
    else if c = '\\' then wordsFrom (.escaped []) rest
    else wordsFrom (.plain [c]) rest
  | .plain chars, c :: rest =>
    if isSeparator c then (wordsFrom .between rest).map (chars.reverse :: ·)
    else if c = '\'' then wordsFrom (.single chars) rest
    else if c = '\\' then wordsFrom (.escaped chars) rest
    else wordsFrom (.plain (c :: chars)) rest

/-- The words of a line. -/
def words (line : String) : Option (List String) :=
  (wordsFrom .between line.toList).map fun ws => ws.map String.ofList

end VaultLocator.Shell
