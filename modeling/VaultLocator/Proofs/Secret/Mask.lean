import VaultLocator.Secret

/-!
# Masking twice

A secret is *short* if it has no more than six characters; all short secrets have one mask. A long
one is the first three characters, something between, and the last three
(`VaultLocator.Secret.exists_split_of_long`), and its mask only changes what is between
(`VaultLocator.Secret.maskChars_split`). A mask is therefore its own mask
(`VaultLocator.Secret.mask_mask`): a masked text is one that masking leaves alone.
-/

namespace VaultLocator.Secret

variable {secret : List Char}

theorem maskChars_of_short (h : secret.length ≤ 6) : maskChars secret = stars :=
  if_pos h

/-- A long secret is its first and its last three characters around something. -/
theorem exists_split_of_long (h : 6 < secret.length) : ∃ first middle last,
    secret = first ++ (middle ++ last) ∧ first.length = 3 ∧ middle ≠ [] ∧ last.length = 3 := by
  refine ⟨secret.take 3, (secret.drop 3).take ((secret.drop 3).length - 3),
    (secret.drop 3).drop ((secret.drop 3).length - 3), ?_, ?_, ?_, ?_⟩
  · rw [List.take_append_drop, List.take_append_drop]
  · rw [List.length_take]
    omega
  · rw [ne_eq, ← List.length_eq_zero_iff, List.length_take, List.length_drop]
    omega
  · rw [List.length_drop, List.length_drop]
    omega

/-- The mask of a long secret has three asterisks for what is between. -/
theorem maskChars_split {first middle last : List Char} (hfirst : first.length = 3)
    (hmiddle : middle ≠ []) (hlast : last.length = 3) :
    maskChars (first ++ (middle ++ last)) = first ++ (['*', '*', '*'] ++ last) := by
  have hpos : 0 < middle.length := List.length_pos_iff.mpr hmiddle
  have hlength : (first ++ (middle ++ last)).length = 3 + middle.length + 3 := by
    rw [List.length_append, List.length_append, hfirst, hlast, Nat.add_assoc]
  have hdrop : 3 + middle.length + 3 - 3 = (first ++ middle).length := by
    rw [List.length_append, hfirst]
    omega
  rw [maskChars, if_neg (by omega), hlength, hdrop, List.take_left' hfirst,
    ← List.append_assoc first middle last, List.drop_left, List.append_assoc]

theorem maskChars_maskChars (secret : List Char) :
    maskChars (maskChars secret) = maskChars secret := by
  rcases Nat.lt_or_ge 6 secret.length with hlong | hshort
  · obtain ⟨first, middle, last, rfl, hfirst, hmiddle, hlast⟩ := exists_split_of_long hlong
    rw [maskChars_split hfirst hmiddle hlast,
      maskChars_split hfirst (List.cons_ne_nil _ _) hlast]
  · rw [maskChars_of_short hshort]
    rfl

/-- **A mask is its own mask.** -/
theorem mask_mask (secret : String) : mask (mask secret) = mask secret := by
  rw [mask, mask, String.toList_ofList, maskChars_maskChars]

/-- **What may be shown of a secret**: a masked text, or the marker of secrets that are hidden
whole. -/
def IsCovered (text : String) : Prop :=
  text = redacted ∨ mask text = text

theorem isCovered_redacted : IsCovered redacted :=
  Or.inl rfl

theorem isCovered_mask (secret : String) : IsCovered (mask secret) :=
  Or.inr (mask_mask secret)

end VaultLocator.Secret
