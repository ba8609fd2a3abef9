import Mathlib.Logic.Function.Iterate
import VaultLocator.Proofs.Text.LetterCase
import VaultLocator.Text.Percent

/-!
# What a decoded text was written as

Decoding goes through a text from left to right and looks at nothing twice, so a decoded text that
is cut in two was cut in two before (`VaultLocator.Text.exists_append_of_percentDecode`), and so it
is after several decodings (`VaultLocator.Text.exists_append_of_iterate`). In particular every
character that decodings bring out has a piece of the text to itself, which *writes* it
(`VaultLocator.Text.Writes`). With one decoding a character is written as itself or by its code
(`VaultLocator.Text.Writes.of_one`), and the two digits of the code are those of the number of the
character, up to their case (`VaultLocator.Text.toLower_of_asciiOfHex?`).
-/

namespace VaultLocator.Text

variable {n : Nat} {c : Char} {text before after piece : List Char}

/-! ### Decoding the start of a text -/

/-- Whether a text starts with a code. -/
def startsWithCode : List Char → Bool
  | '%' :: high :: low :: _ => (asciiOfHex? high low).isSome
  | _ => false

theorem percentDecode_code {high low : Char} (h : asciiOfHex? high low = some c)
    (rest : List Char) : percentDecode ('%' :: high :: low :: rest) = c :: percentDecode rest := by
  rw [percentDecode, h]

/-- A character that starts no code is passed on. -/
theorem percentDecode_cons {rest : List Char} (h : startsWithCode (c :: rest) = false) :
    percentDecode (c :: rest) = c :: percentDecode rest := by
  rw [percentDecode.eq_def]
  split
  · next heq => cases heq
  · next high low rest' heq =>
    cases heq
    rw [startsWithCode, Option.isSome_eq_false_iff, Option.isNone_iff_eq_none] at h
    rw [h]
  · next heq =>
    cases heq
    rfl

/-- A text starts with a code or with a character that is passed on. -/
theorem startsWithCode_cases (c : Char) (rest : List Char) :
    startsWithCode (c :: rest) = false ∨ ∃ high low rest' d, c = '%' ∧ rest = high :: low :: rest' ∧
      asciiOfHex? high low = some d := by
  rw [startsWithCode.eq_def]
  split
  · next high low rest' heq =>
    cases heq
    cases hcode : asciiOfHex? high low with
    | none => exact Or.inl rfl
    | some d => exact Or.inr ⟨high, low, rest', d, rfl, rfl, hcode⟩
  · exact Or.inl rfl

/-- Cutting a text off does not make a code of its start. -/
theorem startsWithCode_of_append (h : startsWithCode (text ++ after) = false) :
    startsWithCode text = false := by
  rw [startsWithCode.eq_def]
  split
  · exact h
  · rfl

@[simp] theorem percentDecode_nil : percentDecode [] = [] := rfl

theorem percentDecode_eq_nil_iff : percentDecode text = [] ↔ text = [] := by
  refine ⟨fun h => ?_, fun h => h ▸ percentDecode_nil⟩
  cases text with
  | nil => rfl
  | cons c rest =>
    rcases startsWithCode_cases c rest with hplain | ⟨high, low, rest', d, rfl, rfl, hcode⟩
    · rw [percentDecode_cons hplain] at h
      cases h
    · rw [percentDecode_code hcode] at h
      cases h

/-! ### Cutting a decoded text -/

/-- **A decoded text that is cut in two was cut in two before.** -/
theorem exists_append_of_percentDecode (h : percentDecode text = before ++ after) :
    ∃ start rest, text = start ++ rest ∧ percentDecode start = before ∧
      percentDecode rest = after := by
  -- Each round takes a character of the decoded text and the one or three that it came from.
  induction hlength : text.length using Nat.strongRecOn generalizing text before with
  | _ length ih =>
    cases before with
    | nil => exact ⟨[], text, rfl, rfl, h⟩
    | cons d before =>
      cases text with
      | nil => cases h
      | cons c tail =>
        rcases startsWithCode_cases c tail with hplain | ⟨high, low, tail, e, rfl, rfl, hcode⟩
        · rw [percentDecode_cons hplain, List.cons_append] at h
          obtain ⟨rfl, htail⟩ := List.cons.inj h
          obtain ⟨start, rest, rfl, hstart, hrest⟩ :=
            ih tail.length (by simp [← hlength]) htail rfl
          have hplain' : startsWithCode (c :: start) = false := startsWithCode_of_append hplain
          exact ⟨c :: start, rest, rfl, by rw [percentDecode_cons hplain', hstart], hrest⟩
        · rw [percentDecode_code hcode, List.cons_append] at h
          obtain ⟨rfl, htail⟩ := List.cons.inj h
          obtain ⟨start, rest, rfl, hstart, hrest⟩ :=
            ih tail.length (by simp only [← hlength, List.length_cons]; omega) htail rfl
          exact ⟨'%' :: high :: low :: start, rest, rfl,
            by rw [percentDecode_code hcode, hstart], hrest⟩

/-- **So was a text that is cut after several decodings.** -/
theorem exists_append_of_iterate (h : percentDecode^[n] text = before ++ after) :
    ∃ start rest, text = start ++ rest ∧ percentDecode^[n] start = before ∧
      percentDecode^[n] rest = after := by
  induction n generalizing text with
  | zero => exact ⟨before, after, h, rfl, rfl⟩
  | succ n ih =>
    obtain ⟨start', rest', hcut, hstart, hrest⟩ := ih h
    obtain ⟨start, rest, rfl, rfl, rfl⟩ := exists_append_of_percentDecode hcut
    exact ⟨start, rest, rfl, hstart, hrest⟩

/-! ### The pieces that write a character -/

/-- **A piece writes a character** if a number of decodings make the character of it. -/
def Writes (n : Nat) (piece : List Char) (c : Char) : Prop :=
  percentDecode^[n] piece = [c]

theorem writes_zero_iff : Writes 0 piece c ↔ piece = [c] := Iff.rfl

/-- With one decoding a character is written as itself or by its code. -/
theorem Writes.of_one (h : Writes 1 piece c) :
    piece = [c] ∨ ∃ high low, piece = ['%', high, low] ∧ asciiOfHex? high low = some c := by
  have hdecode : percentDecode piece = [c] := h
  cases piece with
  | nil => cases hdecode
  | cons d rest =>
    rcases startsWithCode_cases d rest with hplain | ⟨high, low, rest, e, rfl, rfl, hcode⟩
    · rw [percentDecode_cons hplain] at hdecode
      obtain ⟨rfl, hrest⟩ := List.cons.inj hdecode
      rw [percentDecode_eq_nil_iff.mp hrest]
      exact Or.inl rfl
    · rw [percentDecode_code hcode] at hdecode
      obtain ⟨rfl, hrest⟩ := List.cons.inj hdecode
      rw [percentDecode_eq_nil_iff.mp hrest]
      exact Or.inr ⟨high, low, rfl, hcode⟩

/-! ### The digits of a code -/

theorem toNat_lt_of_hexValue? {digit : Char} {value : Nat} (h : hexValue? digit = some value) :
    digit.toNat < 128 := by
  have hle : digit ≤ '9' ∨ digit ≤ 'f' ∨ digit ≤ 'F' := by
    rw [hexValue?] at h
    split at h
    · next hdigit => exact Or.inl (of_decide_eq_true (Bool.and_eq_true_iff.mp hdigit).2)
    split at h
    · next hsmall => exact Or.inr (Or.inl hsmall.2)
    split at h
    · next hcapital => exact Or.inr (Or.inr hcapital.2)
    · cases h
  rcases hle with hle | hle | hle
  all_goals exact Nat.lt_of_le_of_lt (UInt32.le_iff_toNat_le.mp hle) (by decide)

/-- A hexadecimal digit is the digit of its value, up to its case. -/
theorem hexValue?_eq_some {digit : Char} {value : Nat} (h : hexValue? digit = some value) :
    value < 16 ∧ digit.toLower = Nat.digitChar value := by
  have hascii : ∀ n < 128, ∀ value ∈ hexValue? (Char.ofNat n),
      value < 16 ∧ (Char.ofNat n).toLower = Nat.digitChar value := by decide +kernel
  have hlt := toNat_lt_of_hexValue? h
  rw [← Char.ofNat_toNat digit] at h ⊢
  exact hascii digit.toNat hlt value h

/-- The case of a hexadecimal digit does not matter. -/
theorem hexValue?_toLower (digit : Char) : hexValue? digit.toLower = hexValue? digit :=
  toLower_congr (by decide +kernel) digit

theorem asciiOfHex?_toLower (high low : Char) :
    asciiOfHex? high.toLower low.toLower = asciiOfHex? high low := by
  simp only [asciiOfHex?, hexValue?_toLower]

/-- **The digits of a code** are those of the number of the character, up to their case. -/
theorem toLower_of_asciiOfHex? {high low : Char} (h : asciiOfHex? high low = some c) :
    high.toLower = Nat.digitChar (c.toNat / 16) ∧ low.toLower = Nat.digitChar (c.toNat % 16) := by
  rw [asciiOfHex?] at h
  split at h
  · next i j hi hj =>
    obtain ⟨hi16, hhigh⟩ := hexValue?_eq_some hi
    obtain ⟨hj16, hlow⟩ := hexValue?_eq_some hj
    split at h
    · next hi8 =>
      obtain rfl := Option.some.inj h
      have hascii : ∀ n < 128, (Char.ofNat n).toNat = n := by decide +kernel
      have hvalid : (Char.ofNat (16 * i + j)).toNat = 16 * i + j := hascii _ (by omega)
      have hdiv : (16 * i + j) / 16 = i := by omega
      have hmod : (16 * i + j) % 16 = j := by omega
      rw [hvalid, hdiv, hmod]
      exact ⟨hhigh, hlow⟩
    · cases h
  · cases h

end VaultLocator.Text
