/-!
# Numerals of naturals

The *canonical* decimal numeral of a natural has no leading zero, except that zero is written with
one. A text of digits is canonical exactly when it is the numeral of its value
(`VaultLocator.Text.isCanonical_iff`). Hexadecimal digits occur one by one, in the codes of
characters.
-/

namespace VaultLocator.Text

/-- The canonical numeral of a natural, as a text. -/
def decimal (n : Nat) : String :=
  String.ofList (Nat.toDigits 10 n)

/-- Whether a text is a canonical numeral: digits, at least one, and no zero in front of others. -/
def isCanonical (text : List Char) : Bool :=
  !text.isEmpty && text.all Char.isDigit && (text == ['0'] || text.head? != some '0')

/-- The value of a hexadecimal digit. -/
def hexValue? (c : Char) : Option Nat :=
  if c.isDigit then some (c.toNat - '0'.toNat)
  else if 'a' ≤ c ∧ c ≤ 'f' then some (c.toNat - 'a'.toNat + 10)
  else if 'A' ≤ c ∧ c ≤ 'F' then some (c.toNat - 'A'.toNat + 10)
  else none

/-! ### Canonical numerals are those that are written -/

private theorem digitChar_of_isDigit {c : Char} (h : c.isDigit = true) :
    c.toNat - '0'.toNat < 10 ∧ Nat.digitChar (c.toNat - '0'.toNat) = c := by
  simp only [Char.isDigit, Bool.and_eq_true, decide_eq_true_eq] at h
  have h1 : 48 ≤ c.toNat := h.1
  have h2 : c.toNat ≤ 57 := h.2
  have hlt : c.toNat - '0'.toNat < 10 := by
    have : '0'.toNat = 48 := rfl
    omega
  refine ⟨hlt, Char.toNat_inj.mp ?_⟩
  rw [Nat.toNat_digitChar_of_lt_ten hlt]
  have : '0'.toNat = 48 := rfl
  omega

private theorem head?_toDigits {n : Nat} (h : 0 < n) : (Nat.toDigits 10 n).head? ≠ some '0' := by
  induction n using Nat.strongRecOn with
  | _ n ih =>
    rw [Nat.toDigits_eq_if (by decide)]
    split
    · next hlt =>
      have : ∀ d < 10, 0 < d → [Nat.digitChar d].head? ≠ some '0' := by decide
      exact this n hlt h
    · next hge =>
      have hrec := ih (n / 10) (by omega) (by omega)
      cases hd : Nat.toDigits 10 (n / 10) with
      | nil => exact absurd hd Nat.toDigits_ne_nil
      | cons c rest => simpa [hd] using hrec

theorem isCanonical_toDigits (n : Nat) : isCanonical (Nat.toDigits 10 n) = true := by
  have hne : Nat.toDigits 10 n ≠ [] := Nat.toDigits_ne_nil
  have hdigits : (Nat.toDigits 10 n).all Char.isDigit = true :=
    List.all_eq_true.mpr fun c hc => Nat.isDigit_of_mem_toDigits (by decide) (by decide) hc
  rw [isCanonical, hdigits]
  rcases Nat.eq_zero_or_pos n with rfl | hpos
  · rfl
  · simp [hne, head?_toDigits hpos]

private theorem toDigits_ofDigitChars {text : List Char} (hdigits : ∀ c ∈ text, c.isDigit = true) :
    ∀ n, 0 < n → Nat.toDigits 10 (Nat.ofDigitChars 10 text n) = Nat.toDigits 10 n ++ text := by
  induction text with
  | nil => intro n _; simp
  | cons c text ih =>
    intro n hn
    obtain ⟨hlt, hchar⟩ := digitChar_of_isDigit (hdigits c List.mem_cons_self)
    rw [Nat.ofDigitChars_cons, ih (fun d hd => hdigits d (List.mem_cons_of_mem _ hd)) _ (by omega),
      ← Nat.toDigits_append_toDigits (by decide) hn hlt, Nat.toDigits_of_lt_base hlt, hchar]
    simp

/-- **A canonical numeral is the numeral of its value.** -/
theorem isCanonical_iff {text : List Char} :
    isCanonical text = true ↔ text = Nat.toDigits 10 (Nat.ofDigitChars 10 text 0) := by
  constructor
  · intro h
    simp only [isCanonical, Bool.and_eq_true, Bool.not_eq_true', List.isEmpty_eq_false_iff,
      List.all_eq_true, Bool.or_eq_true, beq_iff_eq, bne_iff_ne] at h
    obtain ⟨⟨hne, hdigits⟩, hlead⟩ := h
    cases text with
    | nil => exact absurd rfl hne
    | cons c text =>
      obtain ⟨hlt, hchar⟩ := digitChar_of_isDigit (hdigits c List.mem_cons_self)
      rcases hlead with hzero | hlead
      · rw [hzero]
        rfl
      · have hpos : 0 < c.toNat - '0'.toNat := by
          refine Nat.pos_of_ne_zero fun hz => hlead ?_
          rw [hz] at hchar
          simp [← hchar]
        rw [Nat.ofDigitChars_cons, Nat.mul_zero, Nat.zero_add,
          toDigits_ofDigitChars (fun d hd => hdigits d (List.mem_cons_of_mem _ hd)) _ hpos,
          Nat.toDigits_of_lt_base hlt, hchar]
        rfl
  · intro h
    rw [h]
    exact isCanonical_toDigits _

end VaultLocator.Text
