import VaultLocator.Proofs.Locator.RoundTrip
import VaultLocator.Proofs.Resolution.Course
import VaultLocator.Proofs.Screening.Traversal

/-!
# Identifiers

Uids and names of profiles are *identifiers*: what they may look like is a matter of their length
and of an alphabet within ASCII. `VaultLocator.UidText` says it for uids, of the text alone. The
grammar, which has to tell a uid from a title, the screening of uids, and a gateway that is asked
for the record with a uid, all recognise the same texts (`VaultLocator.uids_recognised_alike`). The
screening asks for commands first and only then for the alphabet, but a text over the alphabet holds
no command, so the order of its steps does not show in what it accepts.

The second part is about identifiers in paths. Neither of the two alphabets has a separator, a
percent sign or a metacharacter, so an identifier is a single segment that no decoding changes. The
one way in which such a segment can lead upwards is to be two dots, and the names of profiles,
which may have dots, include that one: `VaultLocator.Screening.path_components_of_identifiers`.
-/

namespace VaultLocator

/-! ### Uids -/

/-- A character of a uid: an ASCII letter or digit, the low line or the hyphen. -/
def UidLetter (c : Char) : Prop :=
  ('0' ≤ c ∧ c ≤ '9') ∨ ('A' ≤ c ∧ c ≤ 'Z') ∨ ('a' ≤ c ∧ c ≤ 'z') ∨ c = '_' ∨ c = '-'

/-- **A text is written like a uid**: it has from 16 to 32 characters, all of them those of a
uid. -/
structure UidText (text : String) : Prop where
  not_short : 16 ≤ text.length
  not_long : text.length ≤ 32
  letters : ∀ c ∈ text.toList, UidLetter c

instance : DecidablePred UidLetter := fun _ =>
  inferInstanceAs (Decidable (_ ∨ _))

theorem isUidChar_iff {c : Char} : isUidChar c = true ↔ UidLetter c := by
  have hupper : c.isUpper = true ↔ 'A' ≤ c ∧ c ≤ 'Z' := decide_eq_true_iff
  have hlower : c.isLower = true ↔ 'a' ≤ c ∧ c ≤ 'z' := by
    change (decide ('a' ≤ c) && decide (c ≤ 'z')) = true ↔ _
    rw [Bool.and_eq_true, decide_eq_true_iff, decide_eq_true_iff]
  have halphanum : c.isAlphanum = (c.isDigit || (c.isUpper || c.isLower)) := Bool.or_comm _ _
  rw [isUidChar, halphanum]
  simp only [Bool.or_eq_true, beq_iff_eq, hupper, hlower, Locator.isDigit_iff, UidLetter, or_assoc]

theorem uidText_iff {text : String} : UidText text ↔
    uidMinLength ≤ text.length ∧ text.length ≤ uidMaxLength ∧ text.toList.all isUidChar = true := by
  simp only [List.all_eq_true, isUidChar_iff]
  exact ⟨fun h => ⟨h.not_short, h.not_long, h.letters⟩, fun ⟨hmin, hmax, h⟩ => ⟨hmin, hmax, h⟩⟩

namespace Reference

/-- **The grammar takes for a uid what is written like one**, and everything else for a title. -/
theorem exists_ofText_eq_uid_iff {text : String} :
    (∃ uid, ofText text = .uid uid) ↔ UidText text := by
  have hshape : isUidShaped text.toList = true ↔ UidText text := by
    rw [isUidShaped, Bool.and_eq_true, Bool.and_eq_true, decide_eq_true_iff, decide_eq_true_iff,
      String.length_toList, and_assoc, uidText_iff]
  rw [← hshape, ofText]
  split
  · next h => exact iff_of_true ⟨text, rfl⟩ h
  · next h =>
    refine iff_of_false ?_ h
    rintro ⟨uid, ⟨⟩⟩

end Reference

namespace Screening

variable {subject : Subject} {min max : Nat} {text : List Char}

/-- A minimum is met or not; that an empty text has a reason of its own makes no difference. -/
theorem checkMin_eq_ok_iff : checkMin subject min text = .ok () ↔ min ≤ text.length := by
  rw [checkMin, seq_eq_ok_iff, refuse_eq_ok_iff, refuse_eq_ok_iff, decide_eq_false_iff_not,
    Nat.not_lt, Bool.and_eq_false_iff, beq_eq_false_iff_ne, decide_eq_false_iff_not]
  omega

theorem checkMax_eq_ok_iff : checkMax subject max text = .ok () ↔ text.length ≤ max := by
  rw [checkMax, refuse_eq_ok_iff, decide_eq_false_iff_not, Nat.not_lt]

/-- **The screening of uids accepts what is written like one.** Of its four steps the first, which
asks for commands, never decides: the last one leaves no command. -/
theorem checkUid_eq_ok_iff {text : String} : checkUid text = .ok () ↔ UidText text := by
  rw [checkUid, seq_eq_ok_iff, seq_eq_ok_iff, seq_eq_ok_iff, checkCommand_eq_ok_iff,
    checkMin_eq_ok_iff, checkMax_eq_ok_iff, refuse_eq_ok_iff, Bool.not_eq_false',
    String.length_toList, uidText_iff]
  refine and_iff_right_of_imp fun h => ?_
  exact Danger.hasCommandInjection_eq_false (by decide) (List.all_eq_true.mp h.2.2)

end Screening

namespace Gateway

/-- **A request for the record with a uid is rejected if and only if the uid is.** What comes after
the screening fails in other ways. -/
theorem readRecord_rejected_iff {σ : Type} (g : Gateway σ) (uid : String) (unmask : Bool)
    (state : σ) (reason : Rejection) :
    (g.readRecord uid unmask state).result = .error (.rejected reason) ↔
      Screening.checkUid uid = .error reason := by
  have hresult : (g.readRecord uid unmask state).result =
      (g.recordWithUid uid state).1.map fun record => RecordView.ofRecord record unmask := rfl
  rw [hresult, Result.map_eq_error_iff]
  have hcourse := course_recordWithUid g uid state
  generalize g.recordWithUid uid state = answer at hcourse
  cases hcourse with
  | rejected hscreen => rw [hscreen, Except.error.injEq, Except.error.injEq, Error.rejected.injEq]
  | withheld hscreen => simp [hscreen]
  | unselected hscreen => simp [hscreen]
  | selected hscreen => simp [hscreen]

end Gateway

/-- **What a uid is, everyone agrees on.** The grammar takes a text for a uid exactly when the
screening of uids accepts it, which is when it is written like one; and the reference of a locator
that has been read is a uid exactly when no gateway rejects it as the uid of a record. -/
theorem uids_recognised_alike :
    (∀ text, (∃ uid, Reference.ofText text = .uid uid) ↔ Screening.checkUid text = .ok ()) ∧
      (∀ text, Screening.checkUid text = .ok () ↔ UidText text) ∧
      ∀ text l, Locator.parse text = .ok l →
        ∀ {σ : Type} (g : Gateway σ) (unmask : Bool) (state : σ),
          (∃ uid, l.reference = .uid uid) ↔
            ∀ reason, (g.readRecord l.reference.text unmask state).result ≠
              .error (.rejected reason) := by
  refine ⟨fun text => ?_, fun text => Screening.checkUid_eq_ok_iff, ?_⟩
  · rw [Reference.exists_ofText_eq_uid_iff, Screening.checkUid_eq_ok_iff]
  · intro text l hparse σ g unmask state
    obtain ⟨-, hreadable⟩ := Locator.parse_eq_ok_iff.mp hparse
    have hreference : (∃ uid, l.reference = .uid uid) ↔
        Screening.checkUid l.reference.text = .ok () := by
      rw [Screening.checkUid_eq_ok_iff, ← Reference.exists_ofText_eq_uid_iff,
        hreadable.reference_shape]
    rw [hreference]
    simp only [ne_eq, Gateway.readRecord_rejected_iff]
    cases Screening.checkUid l.reference.text <;> simp

/-- A locator with a uid, which every gateway lets pass, and one with a title of as many characters,
which none does. -/
theorem uids_recognised_alike_samples :
    Locator.parse "NJ_xXSkk3xYI1h9ql5lAiQ/field/password" =
        .ok ⟨.uid "NJ_xXSkk3xYI1h9ql5lAiQ", .field ⟨"password", none, none⟩⟩ ∧
      Locator.parse "Production Admin/field/password" =
        .ok ⟨.title "Production Admin", .field ⟨"password", none, none⟩⟩ ∧
      ∀ {σ : Type} (g : Gateway σ) (unmask : Bool) (state : σ),
        (∀ reason, (g.readRecord "NJ_xXSkk3xYI1h9ql5lAiQ" unmask state).result ≠
          .error (.rejected reason)) ∧
        ∃ reason, (g.readRecord "Production Admin" unmask state).result =
          .error (.rejected reason) := by
  refine ⟨rfl, rfl, fun g unmask state => ⟨?_, ?_⟩⟩
  · exact (uids_recognised_alike.2.2 _ _ (rfl : Locator.parse
      "NJ_xXSkk3xYI1h9ql5lAiQ/field/password" = _) g unmask state).mp ⟨_, rfl⟩
  · have htitle := uids_recognised_alike.2.2 _ _ (rfl : Locator.parse
      "Production Admin/field/password" = _) g unmask state
    by_contra hpasses
    obtain ⟨uid, ⟨⟩⟩ := htitle.mpr (not_exists.mp hpasses)

/-! ### Identifiers in paths -/

/-- A character of an identifier: one of a uid, or the full stop, which the names of profiles may
have. -/
def IdentifierLetter (c : Char) : Prop :=
  UidLetter c ∨ c = '.'

instance : DecidablePred IdentifierLetter := fun _ =>
  inferInstanceAs (Decidable (_ ∨ _))

namespace IdentifierLetter

variable {c : Char}

theorem toNat_range (h : IdentifierLetter c) : 45 ≤ c.toNat ∧ c.toNat ≤ 122 := by
  have hle : ∀ a b : Char, a ≤ b → a.toNat ≤ b.toNat := fun _ _ => UInt32.le_iff_toNat_le.mp
  rcases h with (⟨hlo, hhi⟩ | ⟨hlo, hhi⟩ | ⟨hlo, hhi⟩ | rfl | rfl) | rfl
  · exact ⟨le_trans (by decide) (hle _ _ hlo), le_trans (hle _ _ hhi) (by decide)⟩
  · exact ⟨le_trans (by decide) (hle _ _ hlo), le_trans (hle _ _ hhi) (by decide)⟩
  · exact ⟨le_trans (by decide) (hle _ _ hlo), le_trans (hle _ _ hhi) (by decide)⟩
  · decide
  · decide
  · decide

theorem not_control (h : IdentifierLetter c) : Text.isControl c = false := by
  have hrange := h.toNat_range
  rw [Text.isControl, Bool.or_eq_false_iff, Bool.and_eq_false_iff]
  simp only [decide_eq_false_iff_not]
  omega

theorem not_separator (h : IdentifierLetter c) : Danger.isPathSeparator c = false := by
  rw [← Bool.not_eq_true, Danger.isPathSeparator, Bool.or_eq_true, beq_iff_eq, beq_iff_eq]
  rintro (rfl | rfl)
  · exact absurd h (by decide)
  · exact absurd h (by decide)

theorem not_metacharacter (h : IdentifierLetter c) : Danger.isPathMetacharacter c = false := by
  have hmarks : ∀ mark ∈ [';', '|', '&', '$', '\x60', '(', ')', '\x7b', '\x7d', '<', '>'],
      ¬IdentifierLetter mark := List.forall_iff_forall_mem.mp (by decide)
  rw [← Bool.not_eq_true, Danger.isPathMetacharacter, List.contains_iff_mem]
  exact fun hc => hmarks c hc h

end IdentifierLetter

namespace Danger

variable {text : List Char}

/-- Each spelling of a step upwards has a character that is no letter and none of an identifier. -/
theorem not_spelled_of_letters (h : ∀ c ∈ text, IdentifierLetter c) : ¬Spelled text := by
  have hmarks : ∀ word ∈ traversalSpellings,
      word.toList.any (fun mark => !mark.isAlpha && !decide (IdentifierLetter mark)) = true := by
    decide
  rintro ⟨word, hword, before, piece, after, rfl, hpiece⟩
  obtain ⟨mark, hmark, hboth⟩ := List.any_eq_true.mp (hmarks word hword)
  rw [Bool.and_eq_true, Bool.not_eq_true', Bool.not_eq_true', decide_eq_false_iff_not] at hboth
  obtain ⟨hplain, hforeign⟩ := hboth
  rw [← hpiece] at hmark
  obtain ⟨c, hc, hlower⟩ := List.mem_map.mp hmark
  rw [← Text.eq_of_toLower_eq hplain hlower] at hforeign
  exact hforeign (h c (by simp [hc]))

/-- **An identifier steps upwards only if it is two dots.** -/
theorem hasPathTraversal_iff_of_letters (h : ∀ c ∈ text, IdentifierLetter c) :
    hasPathTraversal text = true ↔ text = ['.', '.'] := by
  have hnull : '\x00' ∉ text := fun hc => absurd (h _ hc) (by decide)
  rw [hasPathTraversal_eq_true_iff, or_iff_right hnull, or_iff_right (not_spelled_of_letters h),
    Climbs, Text.segments_of_free fun c hc => (h c hc).not_separator, List.mem_singleton, eq_comm]

end Danger

namespace Screening

open Danger (hasPathTraversal hasPathTraversal_iff_of_letters isPathMetacharacter isPathSeparator)

variable {text : String}

theorem checkFilePath_eq_ok_iff : checkFilePath text = .ok () ↔
    text ≠ "" ∧ '\x00' ∉ text.toList ∧ hasPathTraversal text.toList = false ∧
      ∀ c ∈ text.toList, isPathMetacharacter c = false ∧ Text.isControl c = false := by
  rw [checkFilePath, seq_eq_ok_iff, seq_eq_ok_iff, seq_eq_ok_iff]
  simp only [refuse_eq_ok_iff, String.isEmpty_eq_false_iff, Bool.or_eq_false_iff,
    List.any_eq_false, Bool.not_eq_true, ← forall₂_and]
  rw [← Bool.not_eq_true, List.contains_iff_mem]

/-- **An identifier stays on its level unless it is two dots.** -/
theorem hasPathTraversal_eq_false_iff_of_letters (h : ∀ c ∈ text.toList, IdentifierLetter c) :
    hasPathTraversal text.toList = false ↔ text ≠ ".." := by
  rw [← Bool.not_eq_true, hasPathTraversal_iff_of_letters h, ne_eq, ← String.toList_inj]
  rfl

/-- **An identifier is accepted as a path unless it is two dots.** -/
theorem checkFilePath_eq_ok_iff_of_letters (hne : text ≠ "")
    (h : ∀ c ∈ text.toList, IdentifierLetter c) :
    checkFilePath text = .ok () ↔ text ≠ ".." := by
  rw [checkFilePath_eq_ok_iff, and_iff_right hne,
    and_iff_right fun hc => absurd (h _ hc) (by decide),
    hasPathTraversal_eq_false_iff_of_letters h]
  exact and_iff_left fun c hc => ⟨(h c hc).not_metacharacter, (h c hc).not_control⟩

/-- **A text is good as a component of a path**: there is no separator in it, it does not step
upwards, and it is accepted as a path of its own. -/
structure PathComponent (text : String) : Prop where
  undivided : ∀ c ∈ text.toList, isPathSeparator c = false
  level : hasPathTraversal text.toList = false
  accepted : checkFilePath text = .ok ()

/-- What passes as the name of a profile is not empty, and made of the characters of identifiers. -/
theorem letters_of_checkProfileName (h : checkProfileName text = .ok ()) :
    text ≠ "" ∧ ∀ c ∈ text.toList, IdentifierLetter c := by
  rw [checkProfileName, seq_eq_ok_iff, seq_eq_ok_iff, seq_eq_ok_iff, checkMin_eq_ok_iff,
    checkMax_eq_ok_iff, refuse_eq_ok_iff, Bool.not_eq_false', List.all_eq_true] at h
  obtain ⟨hmin, -, hletters, -⟩ := h
  constructor
  · rintro rfl
    exact absurd hmin (by decide)
  · intro c hc
    have hletter := hletters c hc
    rwa [Bool.or_eq_true, isUidChar_iff, beq_iff_eq] at hletter

/-- **Uids are components of paths, and so are the names of profiles except for two dots.** These
have no separator in them either, but they step upwards and are rejected as a path. -/
theorem path_components_of_identifiers (text : String) :
    (checkUid text = .ok () → PathComponent text) ∧
      (checkProfileName text = .ok () →
        (∀ c ∈ text.toList, isPathSeparator c = false) ∧
          (hasPathTraversal text.toList = false ↔ text ≠ "..") ∧
          (checkFilePath text = .ok () ↔ text ≠ "..")) := by
  constructor
  · intro huid
    obtain ⟨hshort, -, hletters⟩ := checkUid_eq_ok_iff.mp huid
    have hidentifier : ∀ c ∈ text.toList, IdentifierLetter c := fun c hc => Or.inl (hletters c hc)
    -- Sixteen characters are more than none, and more than two dots.
    have hne : text ≠ "" := by
      rintro rfl
      exact absurd hshort (by decide)
    have hdots : text ≠ ".." := by
      rintro rfl
      exact absurd hshort (by decide)
    exact ⟨fun c hc => (hidentifier c hc).not_separator,
      (hasPathTraversal_eq_false_iff_of_letters hidentifier).mpr hdots,
      (checkFilePath_eq_ok_iff_of_letters hne hidentifier).mpr hdots⟩
  · intro hname
    obtain ⟨hne, hletters⟩ := letters_of_checkProfileName hname
    exact ⟨fun c hc => (hletters c hc).not_separator,
      hasPathTraversal_eq_false_iff_of_letters hletters,
      checkFilePath_eq_ok_iff_of_letters hne hletters⟩

/-- A uid, the name of a profile with dots side by side that are not all of it, and two dots. -/
theorem path_components_of_identifiers_samples :
    (checkUid "NJ_xXSkk3xYI1h9ql5lAiQ" = .ok () ∧ PathComponent "NJ_xXSkk3xYI1h9ql5lAiQ") ∧
      checkProfileName "eu..v2_1" = .ok () ∧ PathComponent "eu..v2_1" ∧
      checkProfileName ".." = .ok () ∧ checkFilePath ".." ≠ .ok () := by
  have huid : checkUid "NJ_xXSkk3xYI1h9ql5lAiQ" = .ok () := by decide +kernel
  have hname : checkProfileName "eu..v2_1" = .ok () := by decide +kernel
  have hdots : checkProfileName ".." = .ok () := by decide +kernel
  obtain ⟨hundivided, hlevel, haccepted⟩ := (path_components_of_identifiers _).2 hname
  obtain ⟨-, -, hrejected⟩ := (path_components_of_identifiers _).2 hdots
  exact ⟨⟨huid, (path_components_of_identifiers _).1 huid⟩, hname,
    ⟨hundivided, hlevel.mpr (by decide), haccepted.mpr (by decide)⟩, hdots,
    fun hok => hrejected.mp hok rfl⟩

/-- Two dots pass as the name of a profile, though as a path they step upwards. -/
theorem not_forall_pathComponent :
    (checkProfileName ".." = .ok () ∧ hasPathTraversal "..".toList = true ∧
        checkFilePath ".." = .error (.pathTraversal .filePath)) ∧
      ¬∀ text, checkUid text = .ok () ∨ checkProfileName text = .ok () → PathComponent text := by
  have hname : checkProfileName ".." = .ok () := by decide +kernel
  have hclimbs : hasPathTraversal "..".toList = true := by decide +kernel
  refine ⟨⟨hname, hclimbs, by decide +kernel⟩, fun h => ?_⟩
  have hlevel := (h ".." (Or.inr hname)).level
  rw [hclimbs] at hlevel
  cases hlevel

end Screening

end VaultLocator
