import VaultLocator.Text.Numeral

/-!
# Percent-encoded characters

A character may be written by its code: a percent sign and two hexadecimal digits.
`VaultLocator.Text.percentDecode` puts back the ASCII characters that are written in this way and
leaves everything else as it stands, a percent sign that no code follows included. What it puts
back is not looked at again, so a percent sign that is itself written by its code takes a second
decoding to disappear.
-/

namespace VaultLocator.Text

/-- The ASCII character whose code two hexadecimal digits are, if they are the code of one. -/
def asciiOfHex? (high low : Char) : Option Char :=
  match hexValue? high, hexValue? low with
  | some h, some l => if h < 8 then some (Char.ofNat (16 * h + l)) else none
  | _, _ => none

/-- A text with the ASCII characters that are written by their codes put back. -/
def percentDecode : List Char → List Char
  | [] => []
  | '%' :: high :: low :: rest =>
    match asciiOfHex? high low with
    | some c => c :: percentDecode rest
    | none => '%' :: percentDecode (high :: low :: rest)
  | c :: rest => c :: percentDecode rest

/-- A text without percent signs is its own decoding. -/
theorem percentDecode_of_notMem {text : List Char} (h : '%' ∉ text) :
    percentDecode text = text := by
  induction text using percentDecode.induct with
  | case1 => rfl
  | case2 => simp at h
  | case3 => simp at h
  | case4 c rest _ ih =>
    rw [percentDecode]
    · rw [ih fun hmem => h (List.mem_cons_of_mem _ hmem)]
    · assumption

example : percentDecode "%2E%2e%2Fetc%".toList = "../etc%".toList := by decide +kernel

example : percentDecode "%252e".toList = "%2e".toList := by decide +kernel

example : percentDecode "%c3%A9".toList = "%c3%A9".toList := by decide +kernel

end VaultLocator.Text
