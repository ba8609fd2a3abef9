import Mathlib.Data.List.Basic
import VaultLocator.Text.Search

/-!
# Segments

`VaultLocator.Text.segments` is the splitting of lists at the elements with a property
(`VaultLocator.Text.segments_eq_splitOnP`), so what is known of that holds of it. A segment is a
piece of the text without separators that stands between separators, or where the text starts or
ends (`VaultLocator.Text.mem_segments_iff`).
-/

namespace VaultLocator.Text

variable {separates : Char → Bool} {text segment before after : List Char}

/-- Whether a text is empty or has a separator as its last character. -/
def EndsApart (separates : Char → Bool) (text : List Char) : Prop :=
  ∀ c ∈ text.getLast?, separates c = true

/-- Whether a text is empty or has a separator as its first character. -/
def StartsApart (separates : Char → Bool) (text : List Char) : Prop :=
  ∀ c ∈ text.head?, separates c = true

theorem endsApart_nil : EndsApart separates [] := by
  intro c hc
  cases hc

theorem startsApart_nil : StartsApart separates [] := by
  intro c hc
  cases hc

theorem EndsApart.cons_append {mark : Char} (hmark : separates mark = true)
    (h : EndsApart separates before) (start : List Char) :
    EndsApart separates (start ++ mark :: before) := by
  intro c hc
  rw [List.getLast?_append_cons] at hc
  cases before with
  | nil =>
    cases hc
    exact hmark
  | cons d rest =>
    rw [List.getLast?_cons_cons] at hc
    exact h c hc

/-- The segments are what splitting the text at its separators gives. -/
theorem segments_eq_splitOnP (separates : Char → Bool) (text : List Char) :
    segments separates text = text.splitOnP separates := by
  induction text with
  | nil => rfl
  | cons c rest ih =>
    rw [segments, List.splitOnP_cons_eq_if_modifyHead, ← ih]
    split
    · rfl
    · split
      · next hnil =>
        rw [ih] at hnil
        exact absurd hnil (List.splitOnP_ne_nil _ _)
      · next hcons =>
        rw [hcons]
        rfl

/-- A text without separators is its only segment. -/
theorem segments_of_free (h : ∀ c ∈ text, separates c = false) :
    segments separates text = [text] := by
  rw [segments_eq_splitOnP, List.splitOnP_eq_singleton h]

/-- A separator ends the segments before it and starts those after it. -/
theorem segments_append_cons {mark : Char} (hmark : separates mark = true)
    (before after : List Char) :
    segments separates (before ++ mark :: after) =
      segments separates before ++ segments separates after := by
  simp only [segments_eq_splitOnP, List.splitOnP_append_cons _ _ hmark]

/-- A text has no separators, or it has a first one. -/
theorem free_or_exists_first (separates : Char → Bool) (text : List Char) :
    (∀ c ∈ text, separates c = false) ∨ ∃ first mark rest, text = first ++ mark :: rest ∧
      (∀ c ∈ first, separates c = false) ∧ separates mark = true := by
  induction text with
  | nil =>
    refine Or.inl fun c hc => ?_
    cases hc
  | cons c text ih =>
    cases hc : separates c with
    | true =>
      refine Or.inr ⟨[], c, text, rfl, fun d hd => ?_, hc⟩
      cases hd
    | false =>
      rcases ih with hfree | ⟨first, mark, rest, rfl, hfree, hmark⟩
      · exact Or.inl (List.forall_mem_cons.mpr ⟨hc, hfree⟩)
      · exact Or.inr ⟨c :: first, mark, rest, rfl, List.forall_mem_cons.mpr ⟨hc, hfree⟩, hmark⟩

theorem exists_append_of_mem_segments (h : segment ∈ segments separates text) :
    (∀ c ∈ segment, separates c = false) ∧ ∃ before after, text = before ++ (segment ++ after) ∧
      EndsApart separates before ∧ StartsApart separates after := by
  -- The first segment is met at once, and the others after the first separator.
  induction hlength : text.length using Nat.strongRecOn generalizing text with
  | _ length ih =>
    rcases free_or_exists_first separates text with hfree | ⟨first, mark, rest, rfl, hfree, hmark⟩
    · rw [segments_of_free hfree, List.mem_singleton] at h
      subst h
      exact ⟨hfree, [], [], by simp, endsApart_nil, startsApart_nil⟩
    · rw [segments_append_cons hmark, segments_of_free hfree, List.mem_append,
        List.mem_singleton] at h
      rcases h with rfl | h
      · refine ⟨hfree, [], mark :: rest, rfl, endsApart_nil, ?_⟩
        rintro c ⟨⟩
        exact hmark
      · have hshort : rest.length < length := by
          rw [← hlength, List.length_append, List.length_cons]
          omega
        obtain ⟨hsegment, before, after, rfl, hbefore, hafter⟩ := ih _ hshort h rfl
        exact ⟨hsegment, first ++ mark :: before, after, by simp,
          hbefore.cons_append hmark first, hafter⟩

theorem mem_segments_of_free (hfree : ∀ c ∈ segment, separates c = false)
    (hbefore : EndsApart separates before) (hafter : StartsApart separates after) :
    segment ∈ segments separates (before ++ (segment ++ after)) := by
  have hstart : segment ∈ segments separates (segment ++ after) := by
    cases after with
    | nil =>
      rw [List.append_nil, segments_of_free hfree]
      exact List.mem_singleton_self segment
    | cons mark rest =>
      rw [segments_append_cons (hafter mark rfl), segments_of_free hfree]
      exact List.mem_append_left _ (List.mem_singleton_self segment)
  rcases List.eq_nil_or_concat before with rfl | ⟨front, mark, rfl⟩
  · exact hstart
  · have hmark := hbefore mark (by simp)
    rw [List.concat_eq_append, List.append_assoc, List.singleton_append,
      segments_append_cons hmark]
    exact List.mem_append_right _ hstart

/-- **A segment is a piece without separators between two separators**, or where the text starts
or ends. -/
theorem mem_segments_iff :
    segment ∈ segments separates text ↔ (∀ c ∈ segment, separates c = false) ∧
      ∃ before after, text = before ++ (segment ++ after) ∧ EndsApart separates before ∧
        StartsApart separates after := by
  constructor
  · exact exists_append_of_mem_segments
  · rintro ⟨hfree, before, after, rfl, hbefore, hafter⟩
    exact mem_segments_of_free hfree hbefore hafter

end VaultLocator.Text
