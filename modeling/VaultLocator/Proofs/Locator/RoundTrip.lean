import VaultLocator.Proofs.Locator.Selector
import VaultLocator.Proofs.Result

/-!
# Reading a locator inverts writing it

`VaultLocator.Locator.parse_eq_ok_iff`: a text is read as a locator exactly when it is the written
form of the locator and the locator is readable. So everything that is read is written back as it
was, and the locators that survive being written are exactly the readable ones – those whose
reference is cut off at the first slash and has the shape that it claims, and whose target is not
empty and, for a field, has a readable selector.

The other readers of a text, `VaultLocator.Locator.split`, `VaultLocator.Locator.isFileText` and
`VaultLocator.Locator.isCustomFieldText`, see the same three parts as `VaultLocator.Locator.parse`.
-/

namespace VaultLocator

namespace Locator

/-! ### The three parts -/

/-- A text is cut at the two slashes after a reference and a kind without slashes. -/
theorem split_of_slashes {reference kind : String} (hreference : '/' ∉ reference.toList)
    (hkind : '/' ∉ kind.toList) (payload : String) :
    split (reference ++ "/" ++ kind ++ "/" ++ payload) = .ok ⟨reference, kind, payload⟩ := by
  have htext : (reference ++ "/" ++ kind ++ "/" ++ payload).toList =
      reference.toList ++ '/' :: (kind.toList ++ '/' :: payload.toList) := by
    simp
  have hne : (reference ++ "/" ++ kind ++ "/" ++ payload).isEmpty = false := by
    rw [String.isEmpty_eq_false_iff, ne_eq, ← String.toList_eq_nil_iff, htext]
    simp
  have hfirst := Text.cutAt_eq_some_iff.mpr ⟨htext, hreference⟩
  have hsecond := Text.cutAt_eq_some_iff.mpr
    ⟨(rfl : _ = kind.toList ++ '/' :: payload.toList), hkind⟩
  simp only [split, hne, hfirst, hsecond, String.ofList_toList]
  rfl

/-- If a payload is left after cutting, there were two slashes to cut at. -/
theorem eq_of_split {text : String} {parts : Parts} (h : split text = .ok parts)
    (hpayload : parts.payload ≠ "") :
    text = parts.reference ++ "/" ++ parts.kind ++ "/" ++ parts.payload ∧
      '/' ∉ parts.reference.toList ∧ '/' ∉ parts.kind.toList := by
  rw [split] at h
  split at h
  · cases h
  · split at h
    · cases h
    · next reference rest hfirst =>
      obtain ⟨htext, hreference⟩ := Text.cutAt_eq_some_iff.mp hfirst
      split at h
      · cases h
        exact absurd rfl hpayload
      · next kind payload hsecond =>
        obtain ⟨rfl, hkind⟩ := Text.cutAt_eq_some_iff.mp hsecond
        cases h
        refine ⟨?_, by rwa [String.toList_ofList], by rwa [String.toList_ofList]⟩
        rw [← String.toList_inj, htext]
        simp

/-! ### Readable locators -/

end Locator

/-- A target whose written form is read as it. -/
def Target.Readable : Target → Prop
  | .field selector => selector.Readable
  | .customField selector => selector.Readable
  | .file name => name ≠ ""

/-- A locator whose written form is read as it. -/
structure Locator.Readable (l : Locator) : Prop where
  reference_ne_empty : l.reference.text ≠ ""
  reference_unslashed : '/' ∉ l.reference.text.toList
  /-- The reference is a uid or a title as its text demands. -/
  reference_shape : Reference.ofText l.reference.text = l.reference
  target : l.target.Readable

namespace Reference

@[simp] theorem text_ofText (text : String) : (ofText text).text = text := by
  rw [ofText]
  split <;> rfl

end Reference

namespace Kind

theorem unslashed_spelling (kind : Kind) : '/' ∉ kind.spelling.toList := by
  cases kind <;> decide

theorem spelling_inj {kind kind' : Kind} : kind.spelling = kind'.spelling ↔ kind = kind' := by
  refine ⟨fun h => ?_, fun h => h ▸ rfl⟩
  have hkind : ofSpelling? kind'.spelling = some kind := ofSpelling?_eq_some_iff.mpr h.symm
  rw [ofSpelling?_eq_some_iff.mpr rfl] at hkind
  exact (Option.some.inj hkind).symm

end Kind

namespace Locator

/-- The written form of a readable target is not empty. -/
theorem payload_ne_empty {l : Locator} (h : l.target.Readable) : l.payload ≠ "" := by
  have hselector : ∀ s : Selector, s.Readable → s.render ≠ "" := by
    intro s hs hc
    have hhead := Selector.head?_toList_render hs.name_ne_empty
    rw [String.toList_eq_nil_iff.mpr hc] at hhead
    exact hs.name_ne_empty (String.toList_eq_nil_iff.mp (List.head?_eq_none_iff.mp hhead.symm))
  obtain ⟨reference, target⟩ := l
  cases target with
  | field selector => exact hselector selector h
  | customField selector => exact hselector selector h
  | file name => exact h

/-- Reading a target inverts writing it. -/
theorem readTarget_eq_ok_iff {kind : Kind} {payload : String} {l : Locator}
    (hne : payload ≠ "") :
    readTarget kind payload = .ok l.target ↔
      l.kind = kind ∧ payload = l.payload ∧ l.target.Readable := by
  have hne' : payload.toList ≠ [] := fun hc => hne (String.toList_eq_nil_iff.mp hc)
  obtain ⟨reference, target⟩ := l
  -- A target of another kind than the one that is read is on neither side.
  cases kind with
  | field =>
    rw [readTarget, Result.map_eq_ok_iff]
    cases target with
    | field selector =>
      simp [readSelector_eq_ok_iff hne', String.toList_inj, Locator.kind, Locator.payload,
        Target.Readable]
    | customField selector => simp [Locator.kind]
    | file name => simp [Locator.kind]
  | customField =>
    rw [readTarget, Result.map_eq_ok_iff]
    cases target with
    | field selector => simp [Locator.kind]
    | customField selector =>
      simp [readSelector_eq_ok_iff hne', String.toList_inj, Locator.kind, Locator.payload,
        Target.Readable]
    | file name => simp [Locator.kind]
  | file =>
    rw [readTarget]
    cases target with
    | field selector => simp [Locator.kind]
    | customField selector => simp [Locator.kind]
    | file name =>
      simp only [Locator.kind, Locator.payload, Target.Readable, Except.ok.injEq,
        Target.file.injEq, true_and]
      exact ⟨fun h => ⟨h, h ▸ hne⟩, fun h => h.1⟩

/-! ### Reading a locator -/

/-- What a text is when it is read as a locator: all the steps of the reader. -/
theorem parse_eq_ok_iff_steps {text : String} {l : Locator} :
    parse text = .ok l ↔ ∃ parts, split text = .ok parts ∧ parts.reference ≠ "" ∧
      parts.payload ≠ "" ∧ ∃ kind, parts.kind = kind.spelling ∧
        readTarget kind parts.payload = .ok l.target ∧
          Reference.ofText parts.reference = l.reference := by
  rw [parse, Result.bind_eq_ok_iff]
  refine exists_congr fun parts => and_congr_right fun _ => ?_
  by_cases hreference : parts.reference = ""
  · simp [hreference]
  cases hkind : Kind.ofSpelling? parts.kind with
  | none =>
    have hno : ∀ kind : Kind, parts.kind ≠ kind.spelling := fun kind hc => by
      rw [Kind.ofSpelling?_eq_some_iff.mpr hc] at hkind
      cases hkind
    simp [hreference, hno]
  | some kind =>
    rw [Kind.ofSpelling?_eq_some_iff] at hkind
    by_cases hpayload : parts.payload = ""
    · simp [hreference, hpayload]
    obtain ⟨reference, target⟩ := l
    simp [hreference, hpayload, hkind, Result.bind_eq_ok_iff, Kind.spelling_inj]

/-- **Reading inverts writing**: a text is read as a locator exactly when it is the written form of
the locator, and the locator is readable. -/
theorem parse_eq_ok_iff {text : String} {l : Locator} :
    parse text = .ok l ↔ text = l.render ∧ l.Readable := by
  rw [parse_eq_ok_iff_steps]
  constructor
  · rintro ⟨parts, hsplit, hreference, hpayload, kind, hkind, htarget, href⟩
    -- The three parts, each of them written back, are the text again.
    obtain ⟨htext, hunslashed, -⟩ := eq_of_split hsplit hpayload
    obtain ⟨rfl, hrender, hreadable⟩ := (readTarget_eq_ok_iff hpayload).mp htarget
    have hrefText : l.reference.text = parts.reference := by rw [← href, Reference.text_ofText]
    refine ⟨?_, ?_⟩
    · rw [htext, hkind, hrender, ← hrefText]
      rfl
    · exact ⟨hrefText ▸ hreference, hrefText ▸ hunslashed, by rw [hrefText, href], hreadable⟩
  · rintro ⟨rfl, h⟩
    refine ⟨⟨l.reference.text, l.kind.spelling, l.payload⟩,
      split_of_slashes h.reference_unslashed l.kind.unslashed_spelling _, h.reference_ne_empty,
      payload_ne_empty h.target, l.kind, rfl, ?_, h.reference_shape⟩
    exact (readTarget_eq_ok_iff (payload_ne_empty h.target)).mpr ⟨rfl, rfl, h.target⟩

/-- The readers of a text agree on the locator that it is: it is the written form, character for
character; it is cut into the reference, the spelling of the kind and what follows the second
slash; and its kind is the kind of the locator. -/
structure ReadersAgree (text : String) (l : Locator) : Prop where
  render_eq : l.render = text
  split_eq : ∃ rest, split text = .ok ⟨l.reference.text, l.kind.spelling, rest⟩ ∧
    text = l.reference.text ++ "/" ++ l.kind.spelling ++ "/" ++ rest ∧
    '/' ∉ l.reference.text.toList ∧ '/' ∉ l.kind.spelling.toList
  isFileText_iff : isFileText text = true ↔ l.kind = .file
  isCustomFieldText_iff : isCustomFieldText text = true ↔ l.kind = .customField

/-- **What is read is written back as it was**, and all readers of the text agree on it. -/
theorem readersAgree_of_parse {text : String} {l : Locator} (h : parse text = .ok l) :
    ReadersAgree text l := by
  obtain ⟨rfl, hl⟩ := parse_eq_ok_iff.mp h
  have hsplit : split l.render = .ok ⟨l.reference.text, l.kind.spelling, l.payload⟩ :=
    split_of_slashes hl.reference_unslashed l.kind.unslashed_spelling l.payload
  refine ⟨rfl, ⟨l.payload, hsplit, rfl, hl.reference_unslashed, l.kind.unslashed_spelling⟩,
    ?_, ?_⟩
  · rw [isFileText, hsplit]
    exact beq_iff_eq.trans Kind.spelling_inj
  · rw [isCustomFieldText, hsplit]
    exact beq_iff_eq.trans Kind.spelling_inj

/-- A name with a slash in it that ends in a group itself, and the greatest index. -/
theorem readersAgree_of_parse_phone :
    parse "On Call/custom_field/a/b]c[7][18446744073709551615][number]" =
        .ok ⟨.title "On Call",
          .customField ⟨"a/b]c[7]", some 18446744073709551615, some "number"⟩⟩ ∧
      ReadersAgree "On Call/custom_field/a/b]c[7][18446744073709551615][number]"
        ⟨.title "On Call",
          .customField ⟨"a/b]c[7]", some 18446744073709551615, some "number"⟩⟩ :=
  ⟨rfl, readersAgree_of_parse rfl⟩

/-- **Exactly the readable locators survive being written and read.** The written form of any other
locator is no locator, or another one. -/
theorem parse_render_eq_ok_iff (l : Locator) : parse l.render = .ok l ↔ l.Readable := by
  rw [parse_eq_ok_iff]
  exact and_iff_right rfl

-- A name that ends in a group is taken for a shorter name with an index.
example : parse (render ⟨.title "Mail", .field ⟨"url[0]", none, none⟩⟩) =
    .ok ⟨.title "Mail", .field ⟨"url", some 0, none⟩⟩ := rfl

end Locator

end VaultLocator
