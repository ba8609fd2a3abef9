import VaultLocator.Proofs.Locator.BracketGroup

/-!
# Which selectors survive writing and reading

A selector is any name with any index and any property, but not every written form is read as the
selector it was written for: a name may itself end in a group, a property may look like an index, a
line may end inside the name. `VaultLocator.Selector.Readable` lists what is needed, for each of
the four combinations of index and property, and
`VaultLocator.Locator.readSelector_eq_ok_iff` says that a payload is read as a selector exactly
when it is the written form of that selector and the selector is readable. Both directions of the
round trip follow from this one statement.
-/

namespace VaultLocator

namespace Locator

/-! ### Indices -/

/-- A text that is meant as an index when it stands in the only group: ASCII digits, or none at
all, after at most one sign. -/
def IndexLike (text : List Char) : Prop :=
  ∃ sign digits, text = sign ++ digits ∧ (sign = [] ∨ sign = ['-'] ∨ sign = ['+']) ∧
    ∀ c ∈ digits, '0' ≤ c ∧ c ≤ '9'

theorem isDigit_iff {c : Char} : c.isDigit = true ↔ '0' ≤ c ∧ c ≤ '9' := by
  simp only [Char.isDigit, Bool.and_eq_true, decide_eq_true_eq]
  exact Iff.rfl

theorem all_isDigit_iff {text : List Char} :
    text.all Char.isDigit = true ↔ ∀ c ∈ text, '0' ≤ c ∧ c ≤ '9' := by
  simp only [List.all_eq_true, isDigit_iff]

theorem isIndexLike_iff {text : List Char} : isIndexLike text = true ↔ IndexLike text := by
  constructor
  · intro h
    rw [isIndexLike.eq_def] at h
    split at h
    · next digits => exact ⟨['-'], digits, rfl, Or.inr (Or.inl rfl), all_isDigit_iff.mp h⟩
    · next digits => exact ⟨['+'], digits, rfl, Or.inr (Or.inr rfl), all_isDigit_iff.mp h⟩
    · exact ⟨[], text, rfl, Or.inl rfl, all_isDigit_iff.mp h⟩
  · rintro ⟨sign, digits, rfl, rfl | rfl | rfl, hdigits⟩
    · rw [List.nil_append, isIndexLike.eq_def]
      split
      · exact absurd (hdigits '-' List.mem_cons_self) (by decide)
      · exact absurd (hdigits '+' List.mem_cons_self) (by decide)
      · exact all_isDigit_iff.mpr hdigits
    · exact all_isDigit_iff.mpr hdigits
    · exact all_isDigit_iff.mpr hdigits

/-- **An index is read from its own numeral alone.** -/
theorem readIndex_eq_ok_iff {text : List Char} {index : UInt64} :
    readIndex text = .ok index ↔ text = (Text.decimal index.toNat).toList := by
  rw [Text.decimal, String.toList_ofList, readIndex]
  constructor
  · intro h
    split at h
    · next hcond =>
      obtain ⟨hcanonical, hlt⟩ := hcond
      cases h
      rw [UInt64.toNat_ofNat_of_lt' hlt]
      exact Text.isCanonical_iff.mp hcanonical
    · cases h
  · rintro rfl
    rw [Nat.ofDigitChars_ten_toDigits, if_pos ⟨Text.isCanonical_toDigits _, index.toNat_lt⟩,
      UInt64.ofNat_toNat]

theorem isDigit_of_mem_decimal {n : Nat} {c : Char} (h : c ∈ (Text.decimal n).toList) :
    c.isDigit = true := by
  rw [Text.decimal, String.toList_ofList] at h
  exact Nat.isDigit_of_mem_toDigits (by decide) (by decide) h

/-- A numeral is meant as an index. -/
theorem indexLike_decimal (n : Nat) : IndexLike (Text.decimal n).toList :=
  ⟨[], (Text.decimal n).toList, rfl, Or.inl rfl, fun _ hc =>
    isDigit_iff.mp (isDigit_of_mem_decimal hc)⟩

/-- A numeral may stand within a group. -/
theorem unbracketed_decimal (n : Nat) : Unbracketed (Text.decimal n).toList := by
  intro c hc
  have hdigit := isDigit_of_mem_decimal hc
  constructor
  · rintro rfl
    exact absurd hdigit (by decide)
  · rintro rfl
    exact absurd hdigit (by decide)

end Locator

/-! ### Readable selectors -/

namespace Selector

open Locator

/-- What the groups after a name ask of the name and of the property, by which of the two groups
there are. -/
def GroupsReadable (name : List Char) : Option UInt64 → Option String → Prop
  | none, none => ¬EndsInGroup name ∧ ¬EndsInTwoGroups name
  | some _, none => '\n' ∉ name ∧ ¬EndsInGroup name
  | none, some property =>
    '\n' ∉ name ∧ ¬EndsInGroup name ∧ Unbracketed property.toList ∧ ¬IndexLike property.toList
  | some _, some property => '\n' ∉ name ∧ property ≠ "" ∧ Unbracketed property.toList

/-- A selector whose written form is read as it. -/
structure Readable (s : Selector) : Prop where
  name_ne_empty : s.name ≠ ""
  /-- A name that opens with a bracket would leave no name before the group. -/
  not_opened : s.name.toList.head? ≠ some '['
  groups : GroupsReadable s.name.toList s.index s.property

/-- A text of some characters is not empty. -/
theorem ofList_ne_empty {text : List Char} (h : text ≠ []) : String.ofList text ≠ "" := by
  intro hc
  rw [← String.toList_eq_nil_iff, String.toList_ofList] at hc
  exact h hc

theorem readable_ofList {name : List Char} {index : Option UInt64} {property : Option String}
    (hne : name ≠ []) (hopened : name.head? ≠ some '[')
    (hgroups : GroupsReadable name index property) :
    Readable ⟨String.ofList name, index, property⟩ :=
  { name_ne_empty := ofList_ne_empty hne
    not_opened := by rwa [String.toList_ofList]
    groups := by rwa [String.toList_ofList] }

theorem toList_bracketed (text : String) :
    (bracketed text).toList = '[' :: text.toList ++ [']'] := by
  simp [bracketed]

theorem toList_render_bare (name : String) :
    (render ⟨name, none, none⟩).toList = name.toList := by
  simp [render]

theorem toList_render_index (name : String) (index : UInt64) :
    (render ⟨name, some index, none⟩).toList =
      withGroup name.toList (Text.decimal index.toNat).toList := by
  simp [render, withGroup, toList_bracketed]

theorem toList_render_property (name property : String) :
    (render ⟨name, none, some property⟩).toList = withGroup name.toList property.toList := by
  simp [render, withGroup, toList_bracketed]

theorem toList_render_both (name property : String) (index : UInt64) :
    (render ⟨name, some index, some property⟩).toList =
      withGroup (withGroup name.toList (Text.decimal index.toNat).toList) property.toList := by
  simp [render, withGroup, toList_bracketed]

/-- The written form of a selector begins with its name. -/
theorem head?_toList_render {s : Selector} (h : s.name ≠ "") :
    s.render.toList.head? = s.name.toList.head? := by
  have hname : s.name.toList ≠ [] := fun hc => h (String.toList_eq_nil_iff.mp hc)
  obtain ⟨name, index, property⟩ := s
  cases index with
  | none =>
    cases property with
    | none => rw [toList_render_bare]
    | some property => rw [toList_render_property, head?_withGroup hname]
  | some index =>
    cases property with
    | none => rw [toList_render_index, head?_withGroup hname]
    | some property =>
      rw [toList_render_both, head?_withGroup (withGroup_ne_nil _ _), head?_withGroup hname]

end Selector

namespace Locator

/-! ### Reading a selector -/

/-- What is read from a payload is written back as the payload, and is readable. -/
theorem readable_of_readSelector {kind : Kind} {payload : List Char} {s : Selector}
    (hne : payload ≠ []) (h : readSelector kind payload = .ok s) :
    payload = s.render.toList ∧ s.Readable := by
  rw [readSelector] at h
  split at h
  · cases h
  · next hopened =>
    -- One case for each number of groups that are taken off.
    split at h
    · next name hgroups =>
      obtain ⟨rfl, hone, htwo⟩ := groups_eq_bare_iff.mp hgroups
      cases h
      exact ⟨by rw [Selector.toList_render_bare, String.toList_ofList],
        Selector.readable_ofList hne hopened ⟨hone, htwo⟩⟩
    · next name inner hgroups =>
      obtain ⟨hname, hends, hinner, rfl⟩ := groups_eq_one_iff.mp hgroups
      rw [head?_withGroup hname.1] at hopened
      split at h
      · cases hindex : readIndex inner with
        | error e =>
          rw [hindex] at h
          cases h
        | ok index =>
          rw [hindex] at h
          cases h
          obtain rfl := readIndex_eq_ok_iff.mp hindex
          exact ⟨by rw [Selector.toList_render_index, String.toList_ofList],
            Selector.readable_ofList hname.1 hopened ⟨hname.2, hends⟩⟩
      · next hlike =>
        cases h
        refine ⟨by rw [Selector.toList_render_property, String.toList_ofList,
          String.toList_ofList], Selector.readable_ofList hname.1 hopened ⟨hname.2, hends, ?_, ?_⟩⟩
        · rwa [String.toList_ofList]
        · rwa [String.toList_ofList, ← isIndexLike_iff]
    · next name first second hgroups =>
      obtain ⟨hname, hfirst, hsecond, rfl⟩ := groups_eq_two_iff.mp hgroups
      rw [head?_withGroup (withGroup_ne_nil _ _), head?_withGroup hname.1] at hopened
      cases hindex : readIndex first with
      | error e =>
        rw [hindex] at h
        cases h
      | ok index =>
        rw [hindex] at h
        obtain rfl := readIndex_eq_ok_iff.mp hindex
        cases second with
        | nil => cases h
        | cons c rest =>
          cases h
          refine ⟨by rw [Selector.toList_render_both, String.toList_ofList,
            String.toList_ofList], Selector.readable_ofList hname.1 hopened
              ⟨hname.2, Selector.ofList_ne_empty (List.cons_ne_nil c rest), ?_⟩⟩
          rwa [String.toList_ofList]

/-- The written form of a readable selector is read as the selector. -/
theorem readSelector_render (kind : Kind) {s : Selector} (h : s.Readable) :
    readSelector kind s.render.toList = .ok s := by
  have hopened : s.render.toList.head? ≠ some '[' := by
    rw [Selector.head?_toList_render h.name_ne_empty]
    exact h.not_opened
  have hne : s.name.toList ≠ [] := fun hc => h.name_ne_empty (String.toList_eq_nil_iff.mp hc)
  have hgroups := h.groups
  obtain ⟨name, index, property⟩ := s
  -- What is asked of the groups is what makes the reader take off just those that were written.
  rw [readSelector, if_neg hopened]
  cases index with
  | none =>
    cases property with
    | none =>
      obtain ⟨hone, htwo⟩ := hgroups
      rw [Selector.toList_render_bare, groups_eq_bare_iff.mpr ⟨rfl, hone, htwo⟩]
      simp only [String.ofList_toList]
    | some property =>
      obtain ⟨hline, hends, hproperty, hlike⟩ := hgroups
      rw [Selector.toList_render_property,
        groups_eq_one_iff.mpr ⟨⟨hne, hline⟩, hends, hproperty, rfl⟩]
      simp only [if_neg fun hc => hlike (isIndexLike_iff.mp hc), String.ofList_toList]
  | some index =>
    have hread := readIndex_eq_ok_iff.mpr (rfl : _ = (Text.decimal index.toNat).toList)
    have hindex := unbracketed_decimal index.toNat
    cases property with
    | none =>
      obtain ⟨hline, hends⟩ := hgroups
      rw [Selector.toList_render_index,
        groups_eq_one_iff.mpr ⟨⟨hne, hline⟩, hends, hindex, rfl⟩]
      simp only [if_pos (isIndexLike_iff.mpr (indexLike_decimal _)), hread, String.ofList_toList]
      rfl
    | some property =>
      obtain ⟨hline, hfilled, hproperty⟩ := hgroups
      have hsecond : property.toList.isEmpty = false := by
        rw [List.isEmpty_eq_false_iff]
        exact fun hc => hfilled (String.toList_eq_nil_iff.mp hc)
      rw [Selector.toList_render_both,
        groups_eq_two_iff.mpr ⟨⟨hne, hline⟩, hindex, hproperty, rfl⟩]
      simp only [hread, hsecond, String.ofList_toList]
      rfl

/-- **Reading a selector inverts writing it**: a payload that is not empty is read as a selector
exactly when it is the written form of the selector, and the selector is readable. -/
theorem readSelector_eq_ok_iff {kind : Kind} {payload : List Char} {s : Selector}
    (hne : payload ≠ []) :
    readSelector kind payload = .ok s ↔ payload = s.render.toList ∧ s.Readable := by
  constructor
  · exact readable_of_readSelector hne
  · rintro ⟨rfl, h⟩
    exact readSelector_render kind h

end Locator

end VaultLocator
