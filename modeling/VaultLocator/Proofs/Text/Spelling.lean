import Mathlib.Data.List.Forall2
import VaultLocator.Proofs.Text.Lowering

/-!
# Where a word stands in lower case

A text in lower case is searched for words over the small letters of ASCII. Where such a word is
found, the text itself has to spell it (`VaultLocator.Text.Spells`): each letter by itself, by its
capital, or – for `k` alone – by the Kelvin sign, the one character beyond ASCII whose whole form is
a small letter (`VaultLocator.Text.loweredChar_eq_singleton_iff`).

The capital I with a dot comes close. Its form begins with an `i`, but a mark follows that is in no
word, so it can be the last letter of a word and no other. With words that do not end in `i`
(`VaultLocator.Text.PlainWord`) there is nothing between: a word is found in the lower-case form of
a text if and only if the text spells it somewhere (`VaultLocator.Text.infix_lowercase_iff`). What
stands around the spelling has no part in that. Only sigmas look around, and neither of their forms
is a letter of ASCII.
-/

namespace VaultLocator.Text

variable {letter c : Char} {before text after word piece : List Char}

/-! ### Letters -/

/-- **A character spells a small letter**: it is the letter or its capital, or it is the Kelvin sign
for a `k`. -/
def Spells (letter c : Char) : Prop :=
  c.toLower = letter ∨ letter = 'k' ∧ c = '\u212A'

theorem range_of_isLower (h : letter.isLower = true) :
    97 ≤ letter.toNat ∧ letter.toNat ≤ 122 := by
  obtain ⟨hge, hle⟩ := (Bool.and_eq_true _ _).mp h
  exact ⟨UInt32.le_iff_toNat_le.mp (of_decide_eq_true hge),
    UInt32.le_iff_toNat_le.mp (of_decide_eq_true hle)⟩

/-- Beyond ASCII there are none of the capitals that have a letter in it. -/
theorem toLower_of_beyond (hc : 128 ≤ c.toNat) : c.toLower = c := by
  refine dif_neg fun hcapital => ?_
  have hle : c.toNat ≤ 90 := UInt32.le_iff_toNat_le.mp hcapital.2
  omega

/-- A code gives the character that has it, or the null character if there is none. -/
theorem toNat_ofNat_or (code : Nat) :
    (Char.ofNat code).toNat = code ∨ (Char.ofNat code).toNat = 0 := by
  by_cases hvalid : code.isValidChar
  · exact Or.inl (congrArg Char.toNat (dif_pos hvalid))
  · exact Or.inr (congrArg Char.toNat (dif_neg hvalid))

/-- No run of capitals leads from beyond ASCII into it, but for that of the Kelvin sign. -/
theorem CaseRun.lower?_of_beyond {run : CaseRun} (hrun : run ∈ caseRuns) {code lowered : Nat}
    (hcode : 128 ≤ code) (h : run.lower? code = some lowered) :
    128 ≤ lowered ∨ code = 0x212A ∧ lowered = 0x6B := by
  have hruns : ∀ r ∈ caseRuns, r.last < 128 ∨ 128 ≤ r.first + r.offset ∨
      r.first = 0x212A ∧ r.last = 0x212A ∧ r.offset = -8383 := by decide +kernel
  have htable := hruns run hrun
  rw [CaseRun.lower?] at h
  split at h
  · have hlowered := Option.some.inj h
    omega
  · cases h

/-- The Kelvin sign is the only character beyond ASCII whose form is a small letter. -/
theorem eq_kelvin_of_lowerChar (hletter : letter.isLower = true) (hc : 128 ≤ c.toNat)
    (h : lowerChar c = [letter]) : letter = 'k' ∧ c = '\u212A' := by
  have hrange := range_of_isLower hletter
  rw [lowerChar, if_neg (by omega)] at h
  split at h
  · cases h
  split at h
  · next code hcode =>
    obtain ⟨run, hrun, hlower⟩ := List.exists_of_findSome?_eq_some hcode
    cases h
    rcases CaseRun.lower?_of_beyond hrun hc hlower with hbeyond | ⟨hkelvin, rfl⟩
    · have hcode := toNat_ofNat_or code
      omega
    · exact ⟨rfl, Char.toNat_inj.mp hkelvin⟩
  · cases h
    omega

/-- Neither form of a sigma is a small letter of ASCII. -/
theorem isLower_lowerSigma (before after : List Char) :
    (lowerSigma before after).isLower = false := by
  rw [lowerSigma]
  split
  · decide
  · decide

/-- **The form of a character is a small letter exactly if the character spells it**, wherever it
stands. -/
theorem loweredChar_eq_singleton_iff (hletter : letter.isLower = true) :
    loweredChar before c after = [letter] ↔ Spells letter c := by
  have hrange := range_of_isLower hletter
  rw [loweredChar]
  split
  · next hsigma =>
    subst hsigma
    constructor
    · intro h
      rw [← List.singleton_inj.mp h, isLower_lowerSigma] at hletter
      cases hletter
    · rintro (rfl | ⟨-, hkelvin⟩)
      · exact absurd hletter (by decide)
      · exact absurd hkelvin (by decide)
  rcases Nat.lt_or_ge c.toNat 128 with hascii | hbeyond
  · rw [lowerChar, if_pos hascii, List.singleton_inj, Spells]
    refine (or_iff_left ?_).symm
    rintro ⟨-, rfl⟩
    exact absurd hascii (by decide)
  · constructor
    · exact fun h => Or.inr (eq_kelvin_of_lowerChar hletter hbeyond h)
    · rintro (hsame | ⟨rfl, rfl⟩)
      · rw [toLower_of_beyond hbeyond] at hsame
        rw [hsame] at hbeyond
        omega
      · decide +kernel

/-- The form of a character is a single character, but for the capital I with a dot. -/
theorem loweredChar_cases (before : List Char) (c : Char) (after : List Char) :
    (∃ d, loweredChar before c after = [d]) ∨ loweredChar before c after = ['i', '\u0307'] := by
  rw [loweredChar]
  split
  · exact Or.inl ⟨_, rfl⟩
  rw [lowerChar]
  split
  · exact Or.inl ⟨_, rfl⟩
  split
  · exact Or.inr rfl
  split
  · exact Or.inl ⟨_, rfl⟩
  · exact Or.inl ⟨_, rfl⟩

/-! ### Words -/

/-- **A plain word** is made of small letters of ASCII, and the last of them is no `i`. -/
structure PlainWord (word : List Char) : Prop where
  small : ∀ letter ∈ word, letter.isLower = true
  ending : word.getLast? ≠ some 'i'

theorem PlainWord.tail (h : PlainWord (letter :: word)) : PlainWord word where
  small d hd := h.small d (List.mem_cons_of_mem _ hd)
  ending := by
    cases word with
    | nil => rintro ⟨⟩
    | cons d rest =>
      rw [← List.getLast?_cons_cons]
      exact h.ending

/-- No plain word starts with the capital I with a dot: in lower case a mark follows the `i`. -/
theorem PlainWord.not_prefix_dotted (h : PlainWord (letter :: word)) (rest : List Char) :
    ¬letter :: word <+: 'i' :: '\u0307' :: rest := by
  intro hprefix
  obtain ⟨rfl, htail⟩ := List.cons_prefix_cons.mp hprefix
  cases word with
  | nil => exact h.ending rfl
  | cons d word =>
    obtain ⟨rfl, -⟩ := List.cons_prefix_cons.mp htail
    exact absurd (h.tail.small _ List.mem_cons_self) (by decide)

/-- A word at the start of a text in lower case is spelled at the start of the text. -/
theorem exists_spelled_at_start (hword : PlainWord word)
    (h : word <+: lowercaseAfter before text) :
    ∃ piece rest, text = piece ++ rest ∧ List.Forall₂ Spells word piece := by
  induction word generalizing before text with
  | nil => exact ⟨[], text, rfl, .nil⟩
  | cons letter word ih =>
    cases text with
    | nil => cases List.prefix_nil.mp h
    | cons c text =>
      rw [lowercaseAfter_cons] at h
      rcases loweredChar_cases before c text with ⟨d, hsingle⟩ | hdotted
      · rw [hsingle] at h
        obtain ⟨rfl, htail⟩ := List.cons_prefix_cons.mp h
        obtain ⟨piece, rest, rfl, hpiece⟩ := ih hword.tail htail
        have hspells : Spells letter c :=
          (loweredChar_eq_singleton_iff (hword.small letter List.mem_cons_self)).mp hsingle
        exact ⟨c :: piece, rest, rfl, .cons hspells hpiece⟩
      · rw [hdotted] at h
        exact absurd h (hword.not_prefix_dotted _)

/-- A word anywhere in a text in lower case is spelled somewhere in the text. -/
theorem exists_spelled_inside (hword : PlainWord word)
    (h : word <:+: lowercaseAfter before text) :
    ∃ front piece rest, text = front ++ (piece ++ rest) ∧ List.Forall₂ Spells word piece := by
  induction text generalizing before with
  | nil =>
    cases List.infix_nil.mp h
    exact ⟨[], [], [], rfl, .nil⟩
  | cons c text ih =>
    -- The word starts with the form of `c`, or after it; it cannot start within it.
    have hplace : word <+: lowercaseAfter before (c :: text) ∨
        word <:+: lowercaseAfter (c :: before) text := by
      rw [lowercaseAfter_cons] at h ⊢
      rcases loweredChar_cases before c text with ⟨d, hsingle⟩ | hdotted
      · rw [hsingle] at h ⊢
        exact List.infix_cons_iff.mp h
      · rw [hdotted] at h ⊢
        rcases List.infix_cons_iff.mp h with hstart | hmark
        · exact Or.inl hstart
        rcases List.infix_cons_iff.mp hmark with hmark | hafter
        · cases word with
          | nil => exact Or.inl List.nil_prefix
          | cons letter word =>
            obtain ⟨rfl, -⟩ := List.cons_prefix_cons.mp hmark
            exact absurd (hword.small _ List.mem_cons_self) (by decide)
        · exact Or.inr hafter
    rcases hplace with hstart | hafter
    · obtain ⟨piece, rest, htext, hpiece⟩ := exists_spelled_at_start hword hstart
      exact ⟨[], piece, rest, htext, hpiece⟩
    · obtain ⟨front, piece, rest, rfl, hpiece⟩ := ih hafter
      exact ⟨c :: front, piece, rest, rfl, hpiece⟩

/-- **A piece that spells a word has the word for its form** wherever it stands. -/
theorem loweredIn_of_spelled (hword : ∀ letter ∈ word, letter.isLower = true)
    (h : List.Forall₂ Spells word piece) (before after : List Char) :
    loweredIn before piece after = word := by
  induction h generalizing before with
  | nil => rfl
  | @cons letter c word piece hc _ ih =>
    rw [List.forall_mem_cons] at hword
    rw [loweredIn, (loweredChar_eq_singleton_iff hword.1).mpr hc, ih hword.2]
    rfl

/-- **A plain word is found in lower case exactly where it is spelled.** -/
theorem infix_lowercase_iff (hword : PlainWord word) :
    word <:+: lowercase text ↔ ∃ front piece rest, text = front ++ (piece ++ rest) ∧
      List.Forall₂ Spells word piece := by
  refine ⟨exists_spelled_inside hword, ?_⟩
  rintro ⟨front, piece, rest, rfl, hpiece⟩
  have hinfix := loweredIn_infix front piece rest
  rwa [loweredIn_of_spelled hword.small hpiece] at hinfix

/-- Texts that differ in the case of ASCII letters have the same lower-case form. -/
theorem lowercase_congr {text' : List Char}
    (h : text'.map Char.toLower = text.map Char.toLower) : lowercase text' = lowercase text := by
  have hwhole (t : List Char) : loweredIn [] t [] = lowercase t :=
    loweredIn_eq_lowercase_iff.mpr fun start rest _ => by rw [List.append_nil, List.append_nil]
  rw [← hwhole, loweredIn_congr h, hwhole]

end VaultLocator.Text
