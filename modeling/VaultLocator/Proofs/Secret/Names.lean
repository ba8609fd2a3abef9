import VaultLocator.Proofs.Text.Spelling
import VaultLocator.Secret

/-!
# Which names are secret

A name is secret if it has one of the keywords in it once all of it is in lower case, and lower case
is not taken character by character: one character may become two, and the form of a sigma depends
on what stands around it. So it might be that a name loses its keyword in a longer name, or with a
letter in another case.

It does not, because the keywords are plain words (`VaultLocator.Secret.plainWord_of_mem_keywords`).
A name is secret if and only if a keyword is spelled in it
(`VaultLocator.Secret.isSecretName_iff`), and whether it is can be told from the spelling alone,
whatever stands around it. A keyword is spelled in any mixture of cases, and in one way more: its
`k` may also be written as the Kelvin sign.
-/

namespace VaultLocator.Secret

/-- **Two texts differ at most in the case of ASCII letters**; other letters have to be the same. -/
def SameButCase (text text' : String) : Prop :=
  text.toList.map Char.toLower = text'.toList.map Char.toLower

instance (text text' : String) : Decidable (SameButCase text text') :=
  inferInstanceAs (Decidable (_ = _))

/-- **A keyword is spelled in a name**, between whatever stands before it and after it. -/
def SpelledIn (keyword name : String) : Prop :=
  ∃ before piece after, name.toList = before ++ (piece ++ after) ∧
    List.Forall₂ Text.Spells keyword.toList piece

/-- What is spelled in a name is spelled in every longer one. -/
theorem SpelledIn.append {keyword name : String} (h : SpelledIn keyword name)
    (before after : String) : SpelledIn keyword (before ++ name ++ after) := by
  obtain ⟨front, piece, rest, hname, hpiece⟩ := h
  refine ⟨before.toList ++ front, piece, rest ++ after.toList, ?_, hpiece⟩
  rw [String.toList_append, String.toList_append, hname]
  simp only [List.append_assoc]

/-- The keywords are made of small letters, and none of them ends in an `i`. -/
theorem plainWord_of_mem_keywords {keyword : String} (h : keyword ∈ keywords) :
    Text.PlainWord keyword.toList := by
  have hkeywords : ∀ word ∈ keywords, word.toList.all Char.isLower = true ∧
      word.toList.getLast? ≠ some 'i' := by decide
  obtain ⟨hsmall, hending⟩ := hkeywords keyword h
  exact ⟨List.all_eq_true.mp hsmall, hending⟩

/-- **A name is secret if and only if a keyword is spelled in it.** -/
theorem isSecretName_iff {name : String} :
    isSecretName name = true ↔ ∃ keyword ∈ keywords, SpelledIn keyword name := by
  rw [isSecretName, List.any_eq_true]
  refine exists_congr fun keyword => and_congr_right fun hkeyword => ?_
  rw [Text.occurs_iff, Text.infix_lowercase_iff (plainWord_of_mem_keywords hkeyword)]
  rfl

/-- Names that differ at most in the case of ASCII letters are secret alike. -/
theorem isSecretName_congr {name name' : String} (h : SameButCase name name') :
    isSecretName name = isSecretName name' := by
  rw [isSecretName, isSecretName, Text.lowercase_congr h]

/-- **Secret names stay secret.** The case of their ASCII letters does not matter, and neither does
what is written before them and after them; so a name is secret that has a keyword in it, in
whatever mixture of cases and wherever it stands. There are no others, but for those with the Kelvin
sign for a `k`: a name is secret exactly if a keyword is spelled in it. -/
theorem secret_names_stay_secret :
    (∀ name name', SameButCase name name' → isSecretName name = isSecretName name') ∧
      (∀ name before after, isSecretName name = true →
        isSecretName (before ++ name ++ after) = true) ∧
      (∀ keyword ∈ keywords, ∀ held before after, SameButCase held keyword →
        isSecretName (before ++ held ++ after) = true) ∧
      ∀ name, isSecretName name = true ↔ ∃ keyword ∈ keywords, SpelledIn keyword name := by
  have hembedded (name before after : String) (h : isSecretName name = true) :
      isSecretName (before ++ name ++ after) = true := by
    obtain ⟨keyword, hkeyword, hspelled⟩ := isSecretName_iff.mp h
    exact isSecretName_iff.mpr ⟨keyword, hkeyword, hspelled.append before after⟩
  have hkeywords : ∀ keyword ∈ keywords, isSecretName keyword = true := by decide +kernel
  refine ⟨fun _ _ => isSecretName_congr, hembedded, fun keyword hkeyword held before after h => ?_,
    fun _ => isSecretName_iff⟩
  exact hembedded held before after ((isSecretName_congr h).trans (hkeywords keyword hkeyword))

/-- A keyword in mixed case after a capital sigma and in front of a dotted capital I: the sigma is a
final one alone, and no longer when the name goes on. -/
theorem secret_names_stay_secret_samples :
    SameButCase "pIN ΟΔΟΣ" "PiN ΟΔΟΣ" ∧ isSecretName "pIN ΟΔΟΣ" = isSecretName "PiN ΟΔΟΣ" ∧
      isSecretName "pIN ΟΔΟΣ" = true ∧ isSecretName ("ΑΣ" ++ "pIN ΟΔΟΣ" ++ "Ix") = true ∧
      "token" ∈ keywords ∧ SameButCase "ToKEn" "token" ∧
      isSecretName ("ΟΔΟΣ" ++ "ToKEn" ++ "İ") = true ∧
      isSecretName "to\u212Aen" = true ∧ ∃ keyword ∈ keywords, SpelledIn keyword "to\u212Aen" := by
  obtain ⟨hcase, hembedded, hkeywords, hspelled⟩ := secret_names_stay_secret
  have hpin : SameButCase "pIN ΟΔΟΣ" "PiN ΟΔΟΣ" := by decide +kernel
  have hsecret : isSecretName "pIN ΟΔΟΣ" = true := by decide +kernel
  have htoken : SameButCase "ToKEn" "token" := by decide
  have hkelvin : isSecretName "to\u212Aen" = true := by decide +kernel
  exact ⟨hpin, hcase _ _ hpin, hsecret, hembedded _ _ _ hsecret, by decide, htoken,
    hkeywords "token" (by decide) _ _ _ htoken, hkelvin, (hspelled _).mp hkelvin⟩

end VaultLocator.Secret
