import VaultLocator.Proofs.Screening.Commands
import VaultLocator.Proofs.Text.Decoding
import VaultLocator.Proofs.Text.Segments

/-!
# Which steps to a parent directory are detected

A path *climbs* if one of its segments is two dots (`VaultLocator.Danger.Climbs`). A path that
climbs once it is decoded has a *step* written in it: two pieces that write the dots, and what
stands before and after them is a separator after as many decodings or nothing
(`VaultLocator.Danger.climbs_iterate_iff`). The pieces and the separators may be written each in a
way of its own.

The detection knows a step by its spelling. `VaultLocator.Danger.hasPathTraversal_iff` says which
steps it recognises: dots that are both encoded once, dots that are both encoded twice, and plain
dots that a separator follows, plain or encoded once, or that end the path after a plain separator.
Of the steps that come out with one decoding this leaves three kinds that it overlooks
(`VaultLocator.Danger.IsStep.recognised_or_overlooked`): those with one dot plain and the other
encoded, and those at the end of the path after an encoded separator. What holds of every path is
`VaultLocator.Screening.climb_detection`.
-/

namespace VaultLocator

namespace Danger

open Text

variable {n : Nat} {text before first second after : List Char}

/-! ### Climbs and steps -/

/-- **A path climbs** if one of its segments is two dots. -/
def Climbs (text : List Char) : Prop :=
  ['.', '.'] ∈ segments isPathSeparator text

instance (text : List Char) : Decidable (Climbs text) :=
  inferInstanceAs (Decidable (_ ∈ _))

/-- **A step to a parent directory**, after a number of decodings: `first` and `second` write the
dots, and they are a whole segment between what `before` and `after` are decoded to. -/
structure IsStep (n : Nat) (before first second after : List Char) : Prop where
  first_dot : Writes n first '.'
  second_dot : Writes n second '.'
  before_apart : EndsApart isPathSeparator (percentDecode^[n] before)
  after_apart : StartsApart isPathSeparator (percentDecode^[n] after)
  decoding : percentDecode^[n] (before ++ (first ++ (second ++ after))) =
    percentDecode^[n] before ++ (['.', '.'] ++ percentDecode^[n] after)

theorem climbs_iff : Climbs text ↔
    ∃ before after, text = before ++ (['.', '.'] ++ after) ∧
      EndsApart isPathSeparator before ∧ StartsApart isPathSeparator after := by
  have hdots : ∀ c ∈ ['.', '.'], isPathSeparator c = false := by
    simp [isPathSeparator]
  exact mem_segments_iff.trans (and_iff_right hdots)

/-- **A path climbs after some decodings if a step is written in it.** -/
theorem climbs_iterate_iff : Climbs (percentDecode^[n] text) ↔
    ∃ before first second after, text = before ++ (first ++ (second ++ after)) ∧
      IsStep n before first second after := by
  rw [climbs_iff]
  constructor
  · rintro ⟨before', after', htext, hbefore, hafter⟩
    -- The text is cut before the first dot, after it, and after the second one.
    obtain ⟨before, rest, rfl, rfl, hrest⟩ := exists_append_of_iterate htext
    have hdots : percentDecode^[n] rest = ['.'] ++ (['.'] ++ after') := hrest
    obtain ⟨first, rest, rfl, hfirst, hdot⟩ := exists_append_of_iterate hdots
    obtain ⟨second, after, rfl, hsecond, rfl⟩ := exists_append_of_iterate hdot
    exact ⟨before, first, second, after, rfl, hfirst, hsecond, hbefore, hafter, htext⟩
  · rintro ⟨before, first, second, after, rfl, hstep⟩
    exact ⟨_, _, hstep.decoding, hstep.before_apart, hstep.after_apart⟩

/-! ### Recognised spellings -/

/-- **The steps that the detection recognises**, by how they are spelled. -/
inductive Recognised : List Char → List Char → List Char → List Char → Prop
  /-- The dots are encoded once, whatever stands around them. -/
  | encoded {before first second after : List Char}
      (hfirst : first.map Char.toLower = ['%', '2', 'e'])
      (hsecond : second.map Char.toLower = ['%', '2', 'e']) : Recognised before first second after
  /-- The dots are encoded twice, whatever stands around them. -/
  | encodedTwice {before first second after : List Char}
      (hfirst : first.map Char.toLower = ['%', '2', '5', '2', 'e'])
      (hsecond : second.map Char.toLower = ['%', '2', '5', '2', 'e']) :
      Recognised before first second after
  /-- The dots are plain, and a separator follows that is plain or encoded once. -/
  | followed {before after : List Char} {mark : Char}
      (hafter : (percentDecode after).head? = some mark) (hmark : isPathSeparator mark = true) :
      Recognised before ['.'] ['.'] after
  /-- The dots are plain and the whole last segment of the path. -/
  | last {before : List Char} (hbefore : EndsApart isPathSeparator before) :
      Recognised before ['.'] ['.'] []

/-- **A step in a path that is not decoded is recognised.** -/
theorem Recognised.of_isStep_zero (h : IsStep 0 before first second after) :
    Recognised before first second after := by
  obtain rfl := writes_zero_iff.mp h.first_dot
  obtain rfl := writes_zero_iff.mp h.second_dot
  cases after with
  | nil => exact .last h.before_apart
  | cons mark rest =>
    have hmark := h.after_apart mark rfl
    -- A separator is no percent sign, so it starts no code.
    have hplain : startsWithCode (mark :: rest) = false := by
      rcases startsWithCode_cases mark rest with hplain | ⟨_, _, _, _, rfl, -⟩
      · exact hplain
      · cases hmark
    exact .followed (by rw [percentDecode_cons hplain]; rfl) hmark

/-- **The steps that are overlooked** among those in a path that is decoded once. -/
inductive Overlooked : List Char → List Char → List Char → List Char → Prop
  /-- The first dot is encoded and the second one is plain. -/
  | firstEncoded {before first after : List Char}
      (hfirst : first.map Char.toLower = ['%', '2', 'e']) : Overlooked before first ['.'] after
  /-- The first dot is plain and the second one is encoded. -/
  | secondEncoded {before second after : List Char}
      (hsecond : second.map Char.toLower = ['%', '2', 'e']) : Overlooked before ['.'] second after
  /-- The dots are plain and the whole last segment, but the separator before them is encoded. -/
  | last {before : List Char} (hbefore : ¬EndsApart isPathSeparator before) :
      Overlooked before ['.'] ['.'] []

theorem writes_one_dot {piece : List Char} (h : Writes 1 piece '.') :
    piece = ['.'] ∨ piece.map Char.toLower = ['%', '2', 'e'] := by
  rcases h.of_one with hplain | ⟨high, low, rfl, hcode⟩
  · exact Or.inl hplain
  · obtain ⟨hhigh, hlow⟩ := toLower_of_asciiOfHex? hcode
    simp only [List.map_cons, List.map_nil, hhigh, hlow]
    exact Or.inr rfl

/-- **A step in a path that is decoded once is recognised or overlooked.** -/
theorem IsStep.recognised_or_overlooked (h : IsStep 1 before first second after) :
    Recognised before first second after ∨ Overlooked before first second after := by
  rcases writes_one_dot h.first_dot with rfl | hfirst
  · rcases writes_one_dot h.second_dot with rfl | hsecond
    · cases hafter : (percentDecode after).head? with
      | some mark => exact Or.inl (.followed hafter (h.after_apart mark hafter))
      | none =>
        obtain rfl := percentDecode_eq_nil_iff.mp (List.head?_eq_none_iff.mp hafter)
        by_cases hbefore : EndsApart isPathSeparator before
        · exact Or.inl (.last hbefore)
        · exact Or.inr (.last hbefore)
    · exact Or.inr (.secondEncoded hsecond)
  · rcases writes_one_dot h.second_dot with rfl | hsecond
    · exact Or.inr (.firstEncoded hfirst)
    · exact Or.inl (.encoded hfirst hsecond)

/-- A piece of the path is spelled like one of the spellings up to case. -/
def Spelled (text : List Char) : Prop :=
  ∃ word ∈ traversalSpellings, ∃ before piece after,
    text = before ++ (piece ++ after) ∧ piece.map Char.toLower = word.toList

theorem opensTraversal_iff : opensTraversal text = true ↔
    (∃ word ∈ traversalSpellings, ∃ piece rest,
      text = piece ++ rest ∧ piece.map Char.toLower = word.toList) ∨ text.head? = some '\x00' := by
  have hletters : ∀ word ∈ traversalSpellings, 's' ∉ word.toList ∧ 'k' ∉ word.toList := by decide
  rw [opensTraversal, Bool.or_eq_true, beq_iff_eq, startsWithAny, List.any_eq_true]
  refine or_congr_left (exists_congr fun word => and_congr_right fun hword => ?_)
  exact startsWithWord_iff (hletters word hword).1 (hletters word hword).2

/-- What the detection looks for: a null character, a spelling, or a segment of two dots. -/
theorem hasPathTraversal_eq_true_iff :
    hasPathTraversal text = true ↔ '\x00' ∈ text ∨ Spelled text ∨ Climbs text := by
  have hclimbs : ((segments isPathSeparator text).any fun segment => segment == ['.', '.']) = true ↔
      Climbs text := by
    rw [Climbs, List.any_beq', List.contains_iff_mem]
  rw [hasPathTraversal, Bool.or_eq_true, hclimbs, ← or_assoc, anySuffix_iff]
  refine or_congr_left ?_
  simp only [opensTraversal_iff]
  constructor
  · rintro ⟨before, rest, rfl, ⟨word, hword, piece, after, rfl, hpiece⟩ | hnull⟩
    · exact Or.inr ⟨word, hword, before, piece, after, rfl, hpiece⟩
    · obtain ⟨after, rfl⟩ := List.head?_eq_some_iff.mp hnull
      exact Or.inl (by simp)
  · rintro (hnull | ⟨word, hword, before, piece, after, rfl, hpiece⟩)
    · obtain ⟨before, after, rfl⟩ := List.append_of_mem hnull
      exact ⟨before, _, rfl, Or.inr rfl⟩
    · exact ⟨before, _, rfl, Or.inl ⟨word, hword, piece, after, rfl, hpiece⟩⟩

/-- A separator that is plain or encoded once makes a spelling together with two plain dots. -/
theorem exists_spelling_of_writes {piece : List Char} {mark : Char} (hpiece : Writes 1 piece mark)
    (hmark : isPathSeparator mark = true) :
    ∃ word ∈ traversalSpellings, (['.', '.'] ++ piece).map Char.toLower = word.toList := by
  rw [isPathSeparator, Bool.or_eq_true, beq_iff_eq, beq_iff_eq] at hmark
  rcases hpiece.of_one with rfl | ⟨high, low, rfl, hcode⟩
  · rcases hmark with rfl | rfl
    · exact ⟨"../", by decide, rfl⟩
    · exact ⟨"..\\", by decide, rfl⟩
  · obtain ⟨hhigh, hlow⟩ := toLower_of_asciiOfHex? hcode
    rcases hmark with rfl | rfl
    · refine ⟨"..%2f", by decide, ?_⟩
      simp only [List.map_append, List.map_cons, List.map_nil, hhigh, hlow]
      rfl
    · refine ⟨"..%5c", by decide, ?_⟩
      simp only [List.map_append, List.map_cons, List.map_nil, hhigh, hlow]
      rfl

/-- Two plain dots and a separator that is encoded once are a step that is recognised. -/
theorem exists_recognised_of_code {piece : List Char} {high low mark : Char}
    (hpiece : piece.map Char.toLower = ['.', '.', '%'] ++ [high, low])
    (hcode : asciiOfHex? high low = some mark) (hmark : isPathSeparator mark = true)
    (before after : List Char) : ∃ first second rest,
      piece ++ after = first ++ (second ++ rest) ∧ Recognised before first second rest := by
  obtain ⟨dots, digits, rfl, hdots, hdigits⟩ := List.map_eq_append_iff.mp hpiece
  obtain rfl := eq_of_map_toLower_eq (by decide) hdots
  obtain ⟨x, rest, rfl, rfl, hrest⟩ := List.map_eq_cons_iff.mp hdigits
  obtain ⟨y, rest, rfl, rfl, hnil⟩ := List.map_eq_cons_iff.mp hrest
  obtain rfl := List.map_eq_nil_iff.mp hnil
  rw [asciiOfHex?_toLower] at hcode
  exact ⟨['.'], ['.'], '%' :: x :: y :: after, rfl,
    .followed (by rw [percentDecode_code hcode]; rfl) hmark⟩

/-- A piece with a spelling, and what follows it, are a step that is recognised. -/
theorem exists_recognised_of_spelled {word : String} {piece : List Char}
    (hword : word ∈ traversalSpellings) (hpiece : piece.map Char.toLower = word.toList)
    (before after : List Char) : ∃ first second rest,
      piece ++ after = first ++ (second ++ rest) ∧ Recognised before first second rest := by
  simp only [traversalSpellings, List.mem_cons, List.not_mem_nil, or_false] at hword
  rcases hword with rfl | rfl | rfl | rfl | rfl | rfl
  · obtain rfl := eq_of_map_toLower_eq (by decide) hpiece
    exact ⟨['.'], ['.'], '/' :: after, rfl, .followed rfl rfl⟩
  · obtain rfl := eq_of_map_toLower_eq (by decide) hpiece
    exact ⟨['.'], ['.'], '\\' :: after, rfl, .followed rfl rfl⟩
  · have hcut : piece.map Char.toLower = ['%', '2', 'e'] ++ ['%', '2', 'e'] := hpiece
    obtain ⟨first, second, rfl, hfirst, hsecond⟩ := List.map_eq_append_iff.mp hcut
    exact ⟨first, second, after, List.append_assoc .., .encoded hfirst hsecond⟩
  · have hcut : piece.map Char.toLower =
        ['%', '2', '5', '2', 'e'] ++ ['%', '2', '5', '2', 'e'] := hpiece
    obtain ⟨first, second, rfl, hfirst, hsecond⟩ := List.map_eq_append_iff.mp hcut
    exact ⟨first, second, after, List.append_assoc .., .encodedTwice hfirst hsecond⟩
  · have hcode : asciiOfHex? '2' 'f' = some '/' := rfl
    exact exists_recognised_of_code hpiece hcode rfl before after
  · have hcode : asciiOfHex? '5' 'c' = some '\\' := rfl
    exact exists_recognised_of_code hpiece hcode rfl before after

/-- A step that is recognised has a spelling, or is the last segment of a path that climbs. -/
theorem Recognised.spelled (h : Recognised before first second after) :
    Spelled (before ++ (first ++ (second ++ after))) ∨
      Climbs (before ++ (first ++ (second ++ after))) := by
  cases h with
  | encoded hfirst hsecond =>
    refine Or.inl ⟨"%2e%2e", by decide, before, first ++ second, after, by simp, ?_⟩
    rw [List.map_append, hfirst, hsecond]
    rfl
  | encodedTwice hfirst hsecond =>
    refine Or.inl ⟨"%252e%252e", by decide, before, first ++ second, after, by simp, ?_⟩
    rw [List.map_append, hfirst, hsecond]
    rfl
  | followed hafter hmark =>
    obtain ⟨decoded, hdecode⟩ := List.head?_eq_some_iff.mp hafter
    rw [← List.singleton_append] at hdecode
    obtain ⟨piece, rest, rfl, hpiece, -⟩ := exists_append_of_percentDecode hdecode
    obtain ⟨word, hword, hspelling⟩ := exists_spelling_of_writes hpiece hmark
    exact Or.inl ⟨word, hword, before, ['.', '.'] ++ piece, rest, by simp, hspelling⟩
  | last hbefore =>
    exact Or.inr (climbs_iff.mpr ⟨before, [], rfl, hbefore, startsApart_nil⟩)

/-- **The detection finds null characters and the steps that it recognises.** -/
theorem hasPathTraversal_iff : hasPathTraversal text = true ↔
    '\x00' ∈ text ∨ ∃ before first second after, text = before ++ (first ++ (second ++ after)) ∧
      Recognised before first second after := by
  rw [hasPathTraversal_eq_true_iff]
  refine or_congr_right ⟨?_, ?_⟩
  · rintro (⟨word, hword, before, piece, rest, rfl, hpiece⟩ | hclimbs)
    · obtain ⟨first, second, after, hcut, hrecognised⟩ :=
        exists_recognised_of_spelled hword hpiece before rest
      exact ⟨before, first, second, after, by rw [hcut], hrecognised⟩
    · obtain ⟨before, first, second, after, htext, hstep⟩ :=
        climbs_iterate_iff (n := 0).mp hclimbs
      exact ⟨before, first, second, after, htext, .of_isStep_zero hstep⟩
  · rintro ⟨before, first, second, after, rfl, hrecognised⟩
    exact hrecognised.spelled

theorem Recognised.hasPathTraversal (h : Recognised before first second after)
    (htext : text = before ++ (first ++ (second ++ after))) : hasPathTraversal text = true :=
  hasPathTraversal_iff.mpr (Or.inr ⟨before, first, second, after, htext, h⟩)

end Danger

/-! ### Screening -/

namespace Screening

open Danger (Climbs IsStep Overlooked Recognised climbs_iterate_iff hasPathTraversal)
open Text (percentDecode)

variable {text : String}

theorem no_traversal_of_checkFilePath (h : checkFilePath text = .ok ()) :
    hasPathTraversal text.toList = false := by
  rw [checkFilePath] at h
  obtain ⟨-, h⟩ := seq_eq_ok_iff.mp h
  obtain ⟨-, h⟩ := seq_eq_ok_iff.mp h
  obtain ⟨htraversal, -⟩ := seq_eq_ok_iff.mp h
  exact refuse_eq_ok_iff.mp htraversal

theorem no_traversal_of_checkLocator (h : checkLocator text = .ok ()) :
    hasPathTraversal text.toList = false := by
  rw [checkLocator] at h
  obtain ⟨-, h⟩ := seq_eq_ok_iff.mp h
  obtain ⟨-, h⟩ := seq_eq_ok_iff.mp h
  obtain ⟨htraversal, -⟩ := seq_eq_ok_iff.mp h
  exact (Bool.or_eq_false_iff.mp (refuse_eq_ok_iff.mp htraversal)).2

/-- **Which climbs are detected.** A path that climbs as it stands is detected; one that climbs once
it is decoded is detected or has a step written in it that is overlooked; one that climbs after two
decodings has a step written in it, by which it is detected if the step is recognised. The
detection finds null characters and recognised steps, and nothing else; and neither a path nor a
locator passes its screening with what the detection finds. -/
theorem climb_detection (text : String) :
    (Climbs text.toList → hasPathTraversal text.toList = true) ∧
      (Climbs (percentDecode text.toList) → hasPathTraversal text.toList = true ∨
        ∃ before first second after, text.toList = before ++ (first ++ (second ++ after)) ∧
          IsStep 1 before first second after ∧ Overlooked before first second after) ∧
      (Climbs (percentDecode (percentDecode text.toList)) →
        ∃ before first second after, text.toList = before ++ (first ++ (second ++ after)) ∧
          IsStep 2 before first second after ∧
          (Recognised before first second after → hasPathTraversal text.toList = true)) ∧
      (hasPathTraversal text.toList = true ↔ '\x00' ∈ text.toList ∨
        ∃ before first second after, text.toList = before ++ (first ++ (second ++ after)) ∧
          Recognised before first second after) ∧
      (hasPathTraversal text.toList = true →
        (∃ reason, checkFilePath text = .error reason) ∧
          ∃ reason, checkLocator text = .error reason) := by
  refine ⟨fun h => ?_, fun h => ?_, fun h => ?_, Danger.hasPathTraversal_iff, fun h => ⟨?_, ?_⟩⟩
  · obtain ⟨before, first, second, after, htext, hstep⟩ := (climbs_iterate_iff (n := 0)).mp h
    exact (Recognised.of_isStep_zero hstep).hasPathTraversal htext
  · obtain ⟨before, first, second, after, htext, hstep⟩ := (climbs_iterate_iff (n := 1)).mp h
    rcases hstep.recognised_or_overlooked with hrecognised | hoverlooked
    · exact Or.inl (hrecognised.hasPathTraversal htext)
    · exact Or.inr ⟨before, first, second, after, htext, hstep, hoverlooked⟩
  · obtain ⟨before, first, second, after, htext, hstep⟩ := (climbs_iterate_iff (n := 2)).mp h
    exact ⟨before, first, second, after, htext, hstep, fun h => h.hasPathTraversal htext⟩
  · refine exists_error_of_ne_ok fun hok => ?_
    rw [no_traversal_of_checkFilePath hok] at h
    cases h
  · refine exists_error_of_ne_ok fun hok => ?_
    rw [no_traversal_of_checkLocator hok] at h
    cases h

/-- A path, which is also a locator, that passes though it climbs once it is decoded: one of the
dots is plain and the other encoded. -/
theorem climb_overlooked_mixed :
    Climbs (percentDecode "Backup/file/.%2e/etc/passwd".toList) ∧
      hasPathTraversal "Backup/file/.%2e/etc/passwd".toList = false ∧
      checkFilePath "Backup/file/.%2e/etc/passwd" = .ok () ∧
      checkLocator "Backup/file/.%2e/etc/passwd" = .ok () := by
  refine ⟨?_, ?_, ?_, ?_⟩ <;> decide +kernel

end Screening

end VaultLocator
