import VaultLocator.Text.Fold

/-!
# The case of ASCII letters

Of the characters only the 26 capitals of ASCII have a lower-case letter in ASCII, so what does not
depend on the case of these does not depend on the case of ASCII letters at all
(`VaultLocator.Text.toLower_congr`). Words are met up to case, and
`VaultLocator.Text.startsWithWord_iff` says in which texts.
-/

namespace VaultLocator.Text

/-- What is so of each of the 26 capitals and its lower-case letter is so of every character. -/
theorem toLower_congr {α : Type} {f : Char → α}
    (h : ∀ n < 26, f (Char.ofNat (65 + n)).toLower = f (Char.ofNat (65 + n))) (c : Char) :
    f c.toLower = f c := by
  by_cases hcapital : c.val ≥ 'A'.val ∧ c.val ≤ 'Z'.val
  · have hge : 65 ≤ c.toNat := UInt32.le_iff_toNat_le.mp hcapital.1
    have hle : c.toNat ≤ 90 := UInt32.le_iff_toNat_le.mp hcapital.2
    have hletter : c = Char.ofNat (65 + (c.toNat - 65)) := by
      rw [Nat.add_sub_cancel' hge, Char.ofNat_toNat]
    rw [hletter]
    exact h (c.toNat - 65) (by omega)
  · have hsame : c.toLower = c := dif_neg hcapital
    rw [hsame]

/-- A character that has no case is met as itself. -/
theorem eq_of_toLower_eq {c d : Char} (hd : d.isAlpha = false) (h : c.toLower = d) : c = d := by
  have hc : c.isAlpha = false := by
    rw [← toLower_congr (f := Char.isAlpha) (by decide +kernel) c, h, hd]
  have hcapital := of_decide_eq_false (Bool.or_eq_false_iff.mp hc).1
  have hsame : c.toLower = c := dif_neg hcapital
  rwa [hsame] at h

theorem eq_of_map_toLower_eq {piece word : List Char} (hword : word.any Char.isAlpha = false)
    (h : piece.map Char.toLower = word) : piece = word := by
  subst h
  refine (List.map_id piece).symm.trans (List.map_congr_left fun c hc => ?_)
  have hplain := List.any_eq_false.mp hword c.toLower (List.mem_map_of_mem hc)
  exact eq_of_toLower_eq (Bool.not_eq_true _ ▸ hplain) rfl

/-! ### Words up to case -/

variable {text : List Char}

theorem sameLetter_iff {letter c : Char} (hs : letter ≠ 's') (hk : letter ≠ 'k') :
    sameLetter letter c = true ↔ c.toLower = letter := by
  simp [sameLetter, hs, hk]

/-- **A text that starts with a word up to case** starts with a piece that has the word as its
lower case, if the word has neither of the letters that a character beyond ASCII folds to. -/
theorem startsWithWord_iff {word : List Char} (hs : 's' ∉ word) (hk : 'k' ∉ word) :
    startsWithWord word text = true ↔
      ∃ piece rest, text = piece ++ rest ∧ piece.map Char.toLower = word := by
  rw [startsWithWord]
  induction word generalizing text with
  | nil => simp [afterWord]
  | cons letter word ih =>
    rw [List.mem_cons, not_or] at hs hk
    cases text with
    | nil =>
      simp [afterWord]
    | cons c text =>
      rw [afterWord]
      constructor
      · intro h
        split at h
        · next hletter =>
          obtain ⟨piece, rest, rfl, hpiece⟩ := (ih hs.2 hk.2).mp h
          refine ⟨c :: piece, rest, rfl, ?_⟩
          rw [List.map_cons, hpiece, (sameLetter_iff (Ne.symm hs.1) (Ne.symm hk.1)).mp hletter]
        · cases h
      · rintro ⟨piece, rest, htext, hpiece⟩
        cases piece with
        | nil => cases hpiece
        | cons d piece =>
          rw [List.cons_append] at htext
          obtain ⟨rfl, rfl⟩ := List.cons.inj htext
          rw [List.map_cons] at hpiece
          obtain ⟨hletter, hword⟩ := List.cons.inj hpiece
          rw [if_pos ((sameLetter_iff (Ne.symm hs.1) (Ne.symm hk.1)).mpr hletter)]
          exact (ih hs.2 hk.2).mpr ⟨piece, rest, rfl, hword⟩

end VaultLocator.Text
