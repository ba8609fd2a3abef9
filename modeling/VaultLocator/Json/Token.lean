import VaultLocator.Json.Value
import VaultLocator.Text.Numeral

/-!
# The tokens of a JSON text

A JSON text is a sequence of marks, texts and bare words – numerals and the three names – with
blanks between them. `VaultLocator.Token.scan` reads the characters one by one and keeps in its
`VaultLocator.Token.Mode` what the token under way has collected; a token is given out when the
character that ends it is met.
-/

namespace VaultLocator

/-- A token of a JSON text. -/
inductive Token
  | openArray
  | closeArray
  | openObject
  | closeObject
  | comma
  | colon
  | text (chars : List Char)
  | null
  | bool (value : Bool)
  | number (value : Number)
  deriving DecidableEq

namespace Token

/-! ### Numerals -/

/-- The digits at the start of a text, and what follows them. -/
def spanDigits (text : List Char) : List Char × List Char :=
  (text.takeWhile Char.isDigit, text.dropWhile Char.isDigit)

/-- Appends digits to a number as long as it stays below `2 ^ 64`; gives the number and how many
digits were appended. -/
def absorb (n : Nat) : List Char → Nat × Nat
  | [] => (n, 0)
  | c :: rest =>
    let next := 10 * n + (c.toNat - '0'.toNat)
    if next < UInt64.size then
      let done := absorb next rest
      (done.1, done.2 + 1)
    else
      (n, 0)

/-- The exponent of a numeral, which is what is left of it after its digits: nothing, or a mark,
perhaps a sign, and digits. -/
def exponent? : List Char → Option (Option Int)
  | [] => some none
  | mark :: rest =>
    if mark = 'e' ∨ mark = 'E' then
      let signed : Bool × List Char :=
        match rest with
        | '-' :: digits => (true, digits)
        | '+' :: digits => (false, digits)
        | digits => (false, digits)
      if signed.2 ≠ [] ∧ signed.2.all Char.isDigit then
        let size : Int := Nat.ofDigitChars 10 signed.2 0
        some (some (if signed.1 then -size else size))
      else
        none
    else
      none

/-- The fraction of a numeral and what is left after it: nothing, or a point and digits. -/
def fraction? : List Char → Option (Option (List Char) × List Char)
  | '.' :: rest =>
    let digits := spanDigits rest
    if digits.1 = [] then none else some (some digits.1, digits.2)
  | rest => some (none, rest)

/-- The double that a numeral with a sign, integer digits, fraction digits and an exponent denotes.
The significand is cut off at 64 bits. -/
def double? (negative : Bool) (whole fraction : List Char) (e : Int) : Option Number :=
  let first := absorb 0 whole
  let second := absorb first.1 fraction
  (Double.ofDecimal? second.1 (e + (whole.length - first.2 : Nat) - second.2)).map fun d =>
    .double (if negative then d.negate else d)

/-- The number that a numeral without fraction and exponent denotes: an integer if it fits 64 bits,
a double otherwise. The negative zero is a double. -/
def integer? (negative : Bool) (whole : List Char) : Option Number :=
  let n := Nat.ofDigitChars 10 whole 0
  if negative then
    if 0 < n ∧ n ≤ Nat.pow 2 63 then some (.int (-n)) else double? true whole [] 0
  else
    if n < UInt64.size then some (.int n) else double? false whole [] 0

/-- The number that a numeral denotes. A numeral starts with a zero only if that is its only
integer digit. -/
def numeral? (text : List Char) : Option Number :=
  let signed : Bool × List Char :=
    match text with
    | '-' :: rest => (true, rest)
    | rest => (false, rest)
  let whole := spanDigits signed.2
  if whole.1 = [] ∨ (whole.1.head? = some '0' ∧ 1 < whole.1.length) then
    none
  else
    (fraction? whole.2).bind fun fraction =>
      (exponent? fraction.2).bind fun e =>
        match fraction.1, e with
        | none, none => integer? signed.1 whole.1
        | digits, e => double? signed.1 whole.1 (digits.getD []) (e.getD 0)

/-- The token that a bare word is. -/
def ofWord? (word : List Char) : Option Token :=
  if word = ['n', 'u', 'l', 'l'] then some .null
  else if word = ['t', 'r', 'u', 'e'] then some (.bool true)
  else if word = ['f', 'a', 'l', 's', 'e'] then some (.bool false)
  else (numeral? word).map .number

/-! ### Scanning -/

/-- What the token under way has collected; characters are collected last first. -/
inductive Mode
  /-- Between two tokens. -/
  | between
  /-- In a bare word. -/
  | word (chars : List Char)
  /-- In a text. -/
  | text (chars : List Char)
  /-- In a text, after a backslash. -/
  | escaped (chars : List Char)
  /-- In a text, in a character code with `left` hexadecimal digits to come and `code` read so far;
  `high` is the first half of a pair of which this is the second. -/
  | code (chars : List Char) (high : Option Nat) (left code : Nat)
  /-- In a text, after the first half of a pair. -/
  | half (chars : List Char) (high : Nat)
  /-- In a text, after the first half of a pair and a backslash. -/
  | halfEscaped (chars : List Char) (high : Nat)

/-- The token that a mark is by itself. -/
def ofMark? (c : Char) : Option Token :=
  if c = '[' then some .openArray
  else if c = ']' then some .closeArray
  else if c = '\x7b' then some .openObject
  else if c = '\x7d' then some .closeObject
  else if c = ',' then some .comma
  else if c = ':' then some .colon
  else none

/-- The blanks between tokens. -/
def isGap (c : Char) : Bool :=
  c == ' ' || c == '\t' || c == '\n' || c == '\r'

/-- What a character between two tokens starts: the token that it is, if it is one, and the mode
after it. -/
def start (c : Char) : Option Token × Mode :=
  match ofMark? c with
  | some token => (some token, .between)
  | none => (none, if isGap c then .between else if c = '"' then .text [] else .word [c])

/-- Whether a character ends a bare word. -/
def endsWord (c : Char) : Bool :=
  (ofMark? c).isSome || isGap c || c == '"'

/-- The character that a letter after a backslash stands for. -/
def unescape? (c : Char) : Option Char :=
  if c = '"' ∨ c = '\\' ∨ c = '/' then some c
  else if c = 'b' then some '\x08'
  else if c = 'f' then some '\x0c'
  else if c = 'n' then some '\n'
  else if c = 'r' then some '\r'
  else if c = 't' then some '\t'
  else none

/-- The mode after a whole character code. A code of the first half of a pair waits for the second
half, and the second half makes a character only with the first. -/
def afterCode (chars : List Char) (high : Option Nat) (code : Nat) : Option Mode :=
  match high with
  | some h =>
    if 0xDC00 ≤ code ∧ code < 0xE000 then
      some (.text (Char.ofNat (0x10000 + (h - 0xD800) * 0x400 + (code - 0xDC00)) :: chars))
    else
      none
  | none =>
    if 0xD800 ≤ code ∧ code < 0xDC00 then some (.half chars code)
    else if 0xDC00 ≤ code ∧ code < 0xE000 then none
    else some (.text (Char.ofNat code :: chars))

/-- One character inside a token: the tokens that it completes and the mode after it. -/
def advance? : Mode → Char → Option (List Token × Mode)
  | .between, c =>
    let started := start c
    some (started.1.toList, started.2)
  | .word chars, c =>
    if endsWord c then
      (ofWord? chars.reverse).map fun token =>
        let started := start c
        (token :: started.1.toList, started.2)
    else
      some ([], .word (c :: chars))
  | .text chars, c =>
    if c = '"' then some ([.text chars.reverse], .between)
    else if c = '\\' then some ([], .escaped chars)
    else if c.toNat < 32 then none
    else some ([], .text (c :: chars))
  | .escaped chars, c =>
    if c = 'u' then some ([], .code chars none 4 0)
    else (unescape? c).map fun plain => ([], .text (plain :: chars))
  | .code chars high left code, c =>
    (Text.hexValue? c).bind fun digit =>
      if left ≤ 1 then
        (afterCode chars high (16 * code + digit)).map fun mode => ([], mode)
      else
        some ([], .code chars high (left - 1) (16 * code + digit))
  | .half chars high, c => if c = '\\' then some ([], .halfEscaped chars high) else none
  | .halfEscaped chars high, c =>
    if c = 'u' then some ([], .code chars (some high) 4 0) else none

/-- The tokens of what is left of a text in a given mode, after those that were `read` before, last
first. -/
def scan (read : List Token) : Mode → List Char → Option (List Token)
  | .between, [] => some read.reverse
  | .word chars, [] => (ofWord? chars.reverse).map fun token => (token :: read).reverse
  | _, [] => none
  | mode, c :: rest =>
    match advance? mode c with
    | some (tokens, mode') => scan (tokens.reverse ++ read) mode' rest
    | none => none

/-- The tokens of a text. -/
def ofText? (text : List Char) : Option (List Token) :=
  scan [] .between text

end Token

end VaultLocator
