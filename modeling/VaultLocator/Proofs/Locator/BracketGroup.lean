import Mathlib.Data.List.TakeWhile
import VaultLocator.Locator.Grammar

/-!
# The bracket groups at the end of a payload

A payload is taken apart from its end: `VaultLocator.Locator.trailingGroup?` reverses the text and
scans for a bracket. What it finds does not depend on how it looks. A text *ends in a group* if it
is `before[inner]` with no bracket in `inner`, and since the opening bracket is then the last one
of the text, there is only one way to read it so
(`VaultLocator.Locator.eq_of_withGroup_eq_withGroup`).

The other statements say which of its three answers `VaultLocator.Locator.groups` gives, without
the scan: `VaultLocator.Locator.groups_eq_two_iff`, `VaultLocator.Locator.groups_eq_one_iff` and
`VaultLocator.Locator.groups_eq_bare_iff`.
-/

namespace VaultLocator.Locator

/-! ### Texts that end in a group -/

/-- A text without brackets, as it stands within a group. -/
def Unbracketed (text : List Char) : Prop :=
  ∀ c ∈ text, c ≠ '[' ∧ c ≠ ']'

/-- A text that may stand before a group: not empty, and on one line. -/
def GroupName (text : List Char) : Prop :=
  text ≠ [] ∧ '\n' ∉ text

/-- The text `before[inner]`. -/
def withGroup (before inner : List Char) : List Char :=
  before ++ '[' :: inner ++ [']']

/-- A text of the form `name[inner]`. -/
def EndsInGroup (text : List Char) : Prop :=
  ∃ name inner, GroupName name ∧ Unbracketed inner ∧ text = withGroup name inner

/-- A text of the form `name[first][second]`. -/
def EndsInTwoGroups (text : List Char) : Prop :=
  ∃ name first second, GroupName name ∧ Unbracketed first ∧ Unbracketed second ∧
    text = withGroup (withGroup name first) second

theorem unbracketed_iff {text : List Char} :
    Unbracketed text ↔ ∀ c ∈ text, (!isBracket c) = true := by
  simp [Unbracketed, isBracket]

theorem isGroupName_iff {text : List Char} : isGroupName text = true ↔ GroupName text := by
  simp [isGroupName, GroupName]

theorem withGroup_ne_nil (before inner : List Char) : withGroup before inner ≠ [] := by
  simp [withGroup]

/-- The first character of a text stays first when a group follows. -/
theorem head?_withGroup {before : List Char} (h : before ≠ []) (inner : List Char) :
    (withGroup before inner).head? = before.head? := by
  cases before with
  | nil => exact absurd rfl h
  | cons c before => rfl

/-! ### Taking a group off -/

theorem reverse_withGroup (before inner : List Char) :
    (withGroup before inner).reverse = ']' :: (inner.reverse ++ '[' :: before.reverse) := by
  simp [withGroup]

/-- A group that stands at the end is taken off. -/
theorem trailingGroup?_withGroup (before : List Char) {inner : List Char}
    (h : Unbracketed inner) : trailingGroup? (withGroup before inner) = some (before, inner) := by
  have hinner : ∀ c ∈ inner.reverse, (!isBracket c) = true := fun c hc =>
    unbracketed_iff.mp h c (List.mem_reverse.mp hc)
  have hdrop : (inner.reverse ++ '[' :: before.reverse).dropWhile (fun c => !isBracket c) =
      '[' :: before.reverse := by
    rw [List.dropWhile_append_of_pos hinner]
    rfl
  have htake : (inner.reverse ++ '[' :: before.reverse).takeWhile (fun c => !isBracket c) =
      inner.reverse := by
    rw [List.takeWhile_append_of_pos hinner, List.takeWhile_cons_of_neg (by decide),
      List.append_nil]
  rw [trailingGroup?, reverse_withGroup]
  simp only [hdrop, htake, List.reverse_reverse]

/-- **Taking a group off** a text gives what stands before it and what it holds. -/
theorem trailingGroup?_eq_some_iff {text before inner : List Char} :
    trailingGroup? text = some (before, inner) ↔
      Unbracketed inner ∧ text = withGroup before inner := by
  constructor
  · intro h
    rw [trailingGroup?] at h
    split at h
    · next rest hreverse =>
      split at h
      · next front hdrop =>
        obtain ⟨rfl, rfl⟩ := Prod.mk.inj (Option.some.inj h)
        have hinner : ∀ c ∈ rest.takeWhile (fun c => !isBracket c), (!isBracket c) = true :=
          fun c hc => List.mem_takeWhile_imp (p := fun c => !isBracket c) hc
        refine ⟨unbracketed_iff.mpr fun c hc => hinner c (List.mem_reverse.mp hc), ?_⟩
        -- The scan has cut the reversed text in two; put it together and reverse it back.
        have hrest : rest = rest.takeWhile (fun c => !isBracket c) ++ '[' :: front := by
          rw [← hdrop, List.takeWhile_append_dropWhile]
        rw [← List.reverse_inj, reverse_withGroup, List.reverse_reverse, List.reverse_reverse,
          ← hrest, hreverse]
      · cases h
    · cases h
  · rintro ⟨hinner, rfl⟩
    exact trailingGroup?_withGroup before hinner

/-- **A text ends in a group in one way at most.** -/
theorem eq_of_withGroup_eq_withGroup {before before' inner inner' : List Char}
    (h : Unbracketed inner) (h' : Unbracketed inner')
    (heq : withGroup before inner = withGroup before' inner') :
    before = before' ∧ inner = inner' := by
  have hgroup := trailingGroup?_withGroup before h
  rw [heq, trailingGroup?_withGroup before' h'] at hgroup
  obtain ⟨rfl, rfl⟩ := Prod.mk.inj (Option.some.inj hgroup)
  exact ⟨rfl, rfl⟩

theorem trailingGroup?_eq_none_iff {text : List Char} :
    trailingGroup? text = none ↔
      ∀ before inner, Unbracketed inner → text ≠ withGroup before inner := by
  constructor
  · rintro h before inner hinner rfl
    rw [trailingGroup?_withGroup before hinner] at h
    cases h
  · intro h
    cases hgroup : trailingGroup? text with
    | none => rfl
    | some group =>
      obtain ⟨hinner, htext⟩ := trailingGroup?_eq_some_iff.mp hgroup
      exact absurd htext (h _ _ hinner)

theorem namedGroup?_eq_some_iff {text name inner : List Char} :
    namedGroup? text = some (name, inner) ↔
      GroupName name ∧ Unbracketed inner ∧ text = withGroup name inner := by
  rw [namedGroup?, Option.filter_eq_some_iff, trailingGroup?_eq_some_iff, isGroupName_iff]
  exact and_comm

theorem namedGroup?_eq_none_iff {text : List Char} :
    namedGroup? text = none ↔ ¬EndsInGroup text := by
  constructor
  · rintro h ⟨name, inner, hgroup⟩
    rw [namedGroup?_eq_some_iff.mpr hgroup] at h
    cases h
  · intro h
    cases hgroup : namedGroup? text with
    | none => rfl
    | some group => exact absurd ⟨_, _, namedGroup?_eq_some_iff.mp hgroup⟩ h

/-- Whether a text with a group at its end is of the form `name[inner]` depends only on what stands
before the group. -/
theorem endsInGroup_withGroup_iff {before inner : List Char} (h : Unbracketed inner) :
    EndsInGroup (withGroup before inner) ↔ GroupName before := by
  constructor
  · rintro ⟨name, inner', hname, hinner', heq⟩
    obtain ⟨rfl, -⟩ := eq_of_withGroup_eq_withGroup h hinner' heq
    exact hname
  · exact fun hname => ⟨before, inner, hname, h, rfl⟩

theorem endsInTwoGroups_withGroup_iff {before inner : List Char} (h : Unbracketed inner) :
    EndsInTwoGroups (withGroup before inner) ↔ EndsInGroup before := by
  constructor
  · rintro ⟨name, first, second, hname, hfirst, hsecond, heq⟩
    obtain ⟨rfl, -⟩ := eq_of_withGroup_eq_withGroup h hsecond heq
    exact ⟨name, first, hname, hfirst, rfl⟩
  · rintro ⟨name, first, hname, hfirst, rfl⟩
    exact ⟨name, first, inner, hname, hfirst, h, rfl⟩

/-! ### The groups of a payload -/

/-- **Two groups** are taken off where there are two, with a name before them. -/
theorem groups_eq_two_iff {payload name first second : List Char} :
    groups payload = .two name first second ↔
      GroupName name ∧ Unbracketed first ∧ Unbracketed second ∧
        payload = withGroup (withGroup name first) second := by
  constructor
  · intro h
    rw [groups] at h
    split at h
    · cases h
    · next before inner hgroup =>
      obtain ⟨hinner, rfl⟩ := trailingGroup?_eq_some_iff.mp hgroup
      split at h
      · next name' first' hnamed =>
        cases h
        obtain ⟨hname, hfirst, rfl⟩ := namedGroup?_eq_some_iff.mp hnamed
        exact ⟨hname, hfirst, hinner, rfl⟩
      · split at h <;> cases h
  · rintro ⟨hname, hfirst, hsecond, rfl⟩
    have hnamed : namedGroup? (withGroup name first) = some (name, first) :=
      namedGroup?_eq_some_iff.mpr ⟨hname, hfirst, rfl⟩
    simp only [groups, trailingGroup?_withGroup _ hsecond, hnamed]

/-- **One group** is taken off where there is one with a name before it that has not itself the
form of a name with a group. -/
theorem groups_eq_one_iff {payload name inner : List Char} :
    groups payload = .one name inner ↔
      GroupName name ∧ ¬EndsInGroup name ∧ Unbracketed inner ∧
        payload = withGroup name inner := by
  constructor
  · intro h
    rw [groups] at h
    split at h
    · cases h
    · next before inner' hgroup =>
      obtain ⟨hinner, rfl⟩ := trailingGroup?_eq_some_iff.mp hgroup
      split at h
      · cases h
      · next hnamed =>
        split at h
        · next hname =>
          cases h
          exact ⟨isGroupName_iff.mp hname, namedGroup?_eq_none_iff.mp hnamed, hinner, rfl⟩
        · cases h
  · rintro ⟨hname, hends, hinner, rfl⟩
    simp only [groups, trailingGroup?_withGroup _ hinner, namedGroup?_eq_none_iff.mpr hends,
      isGroupName_iff.mpr hname, if_true]

/-- **No group** is taken off where there is none with a name before it. -/
theorem groups_eq_bare_iff {payload name : List Char} :
    groups payload = .bare name ↔
      name = payload ∧ ¬EndsInGroup payload ∧ ¬EndsInTwoGroups payload := by
  constructor
  · intro h
    rw [groups] at h
    split at h
    · next hgroup =>
      cases h
      rw [trailingGroup?_eq_none_iff] at hgroup
      refine ⟨rfl, ?_, ?_⟩
      · rintro ⟨name, inner, -, hinner, heq⟩
        exact hgroup _ _ hinner heq
      · rintro ⟨name, first, second, -, -, hsecond, heq⟩
        exact hgroup _ _ hsecond heq
    · next before inner hgroup =>
      obtain ⟨hinner, rfl⟩ := trailingGroup?_eq_some_iff.mp hgroup
      split at h
      · cases h
      · next hnamed =>
        split at h
        · cases h
        · next hname =>
          cases h
          rw [endsInGroup_withGroup_iff hinner, endsInTwoGroups_withGroup_iff hinner]
          exact ⟨rfl, fun hc => hname (isGroupName_iff.mpr hc), namedGroup?_eq_none_iff.mp hnamed⟩
  · rintro ⟨rfl, hone, htwo⟩
    rw [groups]
    split
    · rfl
    · next before inner hgroup =>
      -- There is a last group, but neither it nor the one before it has a name.
      obtain ⟨hinner, rfl⟩ := trailingGroup?_eq_some_iff.mp hgroup
      rw [endsInGroup_withGroup_iff hinner, ← isGroupName_iff] at hone
      rw [endsInTwoGroups_withGroup_iff hinner, ← namedGroup?_eq_none_iff] at htwo
      simp only [htwo]
      exact if_neg hone

end VaultLocator.Locator
