import VaultLocator.Json.Shortest
import VaultLocator.Json.Value

/-!
# Writing JSON

The compact form: no blanks, members in the order in which the value holds them. A text is
escaped character by character (`VaultLocator.Json.escape`), and the escaped form holds no
character below the blank, so every written value is a single line. A double is written with its
shortest digits, which `VaultLocator.Decimal.layOut` sets out as a `VaultLocator.NumberStyle` asks.
-/

namespace VaultLocator

/-! ### Numbers -/

/-- How a decimal is set out: with a plain point if the power of ten of its leading digit lies
between `plainFrom` and `plainTo`, and with an exponent otherwise. -/
structure NumberStyle where
  plainFrom : Int
  plainTo : Int

/-- The text of an integer. -/
def intChars : Int → List Char
  | .ofNat n => Nat.toDigits 10 n
  | .negSucc n => '-' :: Nat.toDigits 10 (n + 1)

/-- The text of a decimal. A plain one always has a digit on both sides of the point; an exponent
always has its sign. -/
def Decimal.layOut (style : NumberStyle) (d : Decimal) : List Char :=
  let leading := d.point - 1
  if style.plainFrom ≤ leading ∧ leading ≤ style.plainTo then
    if d.point ≤ 0 then
      ['0', '.'] ++ List.replicate (-d.point).toNat '0' ++ d.digits
    else
      let whole := d.point.toNat
      let fraction := d.digits.drop whole
      d.digits.take whole ++ List.replicate (whole - d.digits.length) '0' ++
        '.' :: (if fraction.isEmpty then ['0'] else fraction)
  else
    let fraction := d.digits.drop 1
    d.digits.take 1 ++ (if fraction.isEmpty then [] else '.' :: fraction) ++
      'e' :: (if 0 ≤ leading then '+' :: intChars leading else intChars leading)

namespace Json

/-- Powers of ten from `10 ^ -5` to `10 ^ 15` are written with a plain point. -/
def numberStyle : NumberStyle :=
  ⟨-5, 15⟩

/-- The text of a double. -/
def doubleChars (d : Double) : List Char :=
  (if d.isNegative then ['-'] else []) ++
    if d.significand = 0 then ['0', '.', '0'] else d.shortest.layOut numberStyle

/-- The text of a number. -/
def numberChars : Number → List Char
  | .int i => intChars i
  | .double d => doubleChars d

/-! ### Texts -/

/-- A character inside a written text. The quote, the backslash and the characters below the blank
are escaped; all others stand for themselves. -/
def escapeChar (c : Char) : List Char :=
  if c = '"' then ['\\', '"']
  else if c = '\\' then ['\\', '\\']
  else if c = '\x08' then ['\\', 'b']
  else if c = '\t' then ['\\', 't']
  else if c = '\n' then ['\\', 'n']
  else if c = '\x0c' then ['\\', 'f']
  else if c = '\r' then ['\\', 'r']
  else if c.toNat < 32 then
    ['\\', 'u', '0', '0', Nat.digitChar (c.toNat / 16), Nat.digitChar (c.toNat % 16)]
  else [c]

/-- The characters of a text, escaped. -/
def escape (text : List Char) : List Char :=
  text.flatMap escapeChar

/-- A written text: the escaped characters between quotes. -/
def quoted (text : List Char) : List Char :=
  '"' :: (escape text ++ ['"'])

/-! ### Values -/

mutual

/-- The written form of a value. -/
def chars : Json → List Char
  | .null => ['n', 'u', 'l', 'l']
  | .bool true => ['t', 'r', 'u', 'e']
  | .bool false => ['f', 'a', 'l', 's', 'e']
  | .num n => numberChars n
  | .str s => quoted s.toList
  | .arr [] => ['[', ']']
  | .arr (item :: items) => '[' :: (chars item ++ itemsChars items)
  | .obj [] => ['\x7b', '\x7d']
  | .obj ((key, value) :: members) =>
    '\x7b' :: (quoted key.toList ++ ':' :: (chars value ++ membersChars members))

/-- The written form of the items that are left, with the end of the array. -/
def itemsChars : List Json → List Char
  | [] => [']']
  | item :: items => ',' :: (chars item ++ itemsChars items)

/-- The written form of the members that are left, with the end of the object. -/
def membersChars : List (String × Json) → List Char
  | [] => ['\x7d']
  | (key, value) :: members =>
    ',' :: (quoted key.toList ++ ':' :: (chars value ++ membersChars members))

end

/-- The written form of a value, as a text. -/
def render (value : Json) : String :=
  String.ofList value.chars

end Json

end VaultLocator
