import Mathlib.Data.List.DropRight
import VaultLocator.Proofs.Secret.Mask

/-!
# What a mask tells

Of a short secret a mask tells that it is short, and of a long one its first and its last three
characters. It tells nothing else: two secrets have the same mask if and only if they agree in that
(`VaultLocator.Secret.mask_eq_mask_iff`).

A mask hides something of every secret but of those that have the form of a mask themselves
(`VaultLocator.Secret.HasMaskForm`), and those it leaves alone
(`VaultLocator.Secret.mask_eq_self_iff`). With three characters kept at either end of at least
seven, what is kept at one end never reaches into the other, so a long secret is split into three
pieces (`VaultLocator.Secret.exists_split_of_long`), of which a mask keeps the outer two.
-/

namespace VaultLocator.Secret

variable {secret other first middle last : List Char}

/-! ### The same mask -/

/-- The ends of a secret that is split are its outer pieces. -/
theorem ends_of_split (hfirst : first.length = 3) (middle : List Char) (hlast : last.length = 3) :
    (first ++ (middle ++ last)).take 3 = first ∧
      (first ++ (middle ++ last)).rtake 3 = last := by
  constructor
  · exact List.take_left' hfirst
  · rw [List.rtake_eq_reverse_take_reverse, ← List.append_assoc, List.reverse_append,
      List.take_left' (by rw [List.length_reverse, hlast]), List.reverse_reverse]

theorem length_split (hfirst : first.length = 3) (hlast : last.length = 3) :
    (first ++ (middle ++ last)).length = middle.length + 6 := by
  rw [List.length_append, List.length_append, hfirst, hlast]
  omega

/-- The mask of a long secret is longer than that of the short ones. -/
theorem maskChars_ne_stars (h : 6 < secret.length) : maskChars secret ≠ stars := by
  obtain ⟨first, middle, last, rfl, hfirst, hmiddle, hlast⟩ := exists_split_of_long h
  intro hmask
  have hlength := congrArg List.length hmask
  rw [maskChars_split hfirst hmiddle hlast, length_split hfirst hlast] at hlength
  cases hlength

/-- Long secrets have the same mask exactly if they agree at both ends. -/
theorem maskChars_eq_iff_of_long (h : 6 < secret.length) (hother : 6 < other.length) :
    maskChars secret = maskChars other ↔
      secret.take 3 = other.take 3 ∧ secret.rtake 3 = other.rtake 3 := by
  obtain ⟨first, middle, last, rfl, hfirst, hmiddle, hlast⟩ := exists_split_of_long h
  obtain ⟨first', middle', last', rfl, hfirst', hmiddle', hlast'⟩ := exists_split_of_long hother
  obtain ⟨hstart, hend⟩ := ends_of_split hfirst middle hlast
  obtain ⟨hstart', hend'⟩ := ends_of_split hfirst' middle' hlast'
  rw [maskChars_split hfirst hmiddle hlast, maskChars_split hfirst' hmiddle' hlast', hstart, hend,
    hstart', hend']
  constructor
  · intro hmask
    obtain ⟨hfirsts, hrest⟩ := List.append_inj hmask (hfirst.trans hfirst'.symm)
    exact ⟨hfirsts, List.append_cancel_left hrest⟩
  · rintro ⟨rfl, rfl⟩
    rfl

theorem maskChars_eq_maskChars_iff : maskChars secret = maskChars other ↔
    secret.length ≤ 6 ∧ other.length ≤ 6 ∨ 6 < secret.length ∧ 6 < other.length ∧
      secret.take 3 = other.take 3 ∧ secret.rtake 3 = other.rtake 3 := by
  rcases Nat.lt_or_ge 6 secret.length with hlong | hshort
  · rcases Nat.lt_or_ge 6 other.length with hlong' | hshort'
    · rw [maskChars_eq_iff_of_long hlong hlong', or_iff_right (by omega), and_iff_right hlong,
        and_iff_right hlong']
    · rw [maskChars_of_short hshort']
      exact iff_of_false (maskChars_ne_stars hlong) (by omega)
  · rw [maskChars_of_short hshort]
    rcases Nat.lt_or_ge 6 other.length with hlong' | hshort'
    · exact iff_of_false (maskChars_ne_stars hlong').symm (by omega)
    · rw [maskChars_of_short hshort']
      exact iff_of_true rfl (Or.inl ⟨hshort, hshort'⟩)

/-- **The kernel of masking**: two secrets have the same mask exactly if both are short, or both are
long and agree on their first and on their last three characters. -/
theorem mask_eq_mask_iff {secret other : String} : mask secret = mask other ↔
    secret.length ≤ 6 ∧ other.length ≤ 6 ∨ 6 < secret.length ∧ 6 < other.length ∧
      secret.toList.take 3 = other.toList.take 3 ∧
        secret.toList.rtake 3 = other.toList.rtake 3 := by
  rw [mask, mask, ← String.toList_inj, String.toList_ofList, String.toList_ofList,
    maskChars_eq_maskChars_iff, String.length_toList, String.length_toList]

/-! ### Texts that masking leaves alone -/

/-- **A text has the form of a mask**: it is six asterisks, or it has nine characters of which the
middle three are asterisks. -/
def HasMaskForm (text : String) : Prop :=
  text = "******" ∨ text.length = 9 ∧ (text.toList.drop 3).take 3 = ['*', '*', '*']

instance (text : String) : Decidable (HasMaskForm text) :=
  inferInstanceAs (Decidable (_ ∨ _))

theorem maskChars_eq_self_iff : maskChars secret = secret ↔
    secret = stars ∨ secret.length = 9 ∧ (secret.drop 3).take 3 = ['*', '*', '*'] := by
  rcases Nat.lt_or_ge 6 secret.length with hlong | hshort
  · have hstars : secret ≠ stars := by
      rintro rfl
      exact absurd hlong (by decide)
    rw [or_iff_right hstars]
    obtain ⟨first, middle, last, rfl, hfirst, hmiddle, hlast⟩ := exists_split_of_long hlong
    rw [maskChars_split hfirst hmiddle hlast, length_split hfirst hlast, List.drop_left' hfirst]
    constructor
    · intro hmask
      have hmiddles := List.append_cancel_right (List.append_cancel_left hmask)
      subst hmiddles
      exact ⟨rfl, List.take_left' rfl⟩
    · rintro ⟨hlength, hmiddles⟩
      rw [List.take_left' (by omega)] at hmiddles
      rw [hmiddles]
  · rw [maskChars_of_short hshort, or_iff_left (by omega), eq_comm]

/-- **Masking leaves alone what has the form of a mask**, and nothing else. -/
theorem mask_eq_self_iff {text : String} : mask text = text ↔ HasMaskForm text := by
  have hstars : "******".toList = stars := rfl
  rw [HasMaskForm, mask, ← String.toList_inj, String.toList_ofList, maskChars_eq_self_iff,
    ← String.toList_inj, hstars, String.length_toList]

end VaultLocator.Secret
