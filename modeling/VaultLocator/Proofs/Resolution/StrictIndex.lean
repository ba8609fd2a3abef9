import VaultLocator.Proofs.Extraction.NativeLookup
import VaultLocator.Proofs.Resolution.Course

/-!
# What strict indices take away

A gateway may be strict about indices or lenient. Two runs are compared here, one of each kind, and
the comparison comes down to one place: `VaultLocator.Extraction.selectedValues`, where an index
past the end of a field is an error if indices are strict, and stands for the first value if they
are not. So nothing is different unless a locator *leads past the end* of the field that it finds
(`VaultLocator.Extraction.eq_or_leadsPastEnd`), and there the strict answer is always the error, for
a field without any value too.

A gateway that has the vault look a field up never comes to that place, so of the courses of a
resolution only the one that ends with a selected record tells the two apart
(`VaultLocator.Gateway.resolveText_withStrictIndex`). Together:
`VaultLocator.Gateway.strictIndex_only_removes`.
-/

namespace VaultLocator

/-! ### Another element of the same field -/

/-- A selector with another index in the place of its own. -/
def Selector.atIndex (s : Selector) (index : UInt64) : Selector :=
  { s with index := some index }

/-- A locator with another index in the place of its own, if it points at a field. -/
def Locator.atIndex (l : Locator) (index : UInt64) : Locator :=
  { l with
    target :=
      match l.target with
      | .field selector => .field (selector.atIndex index)
      | .customField selector => .customField (selector.atIndex index)
      | .file name => .file name }

theorem Locator.selector?_atIndex (l : Locator) (index : UInt64) :
    (l.atIndex index).selector? = l.selector?.map fun selector => selector.atIndex index := by
  obtain ⟨reference, target⟩ := l
  cases target with
  | field selector => rfl
  | customField selector => rfl
  | file name => rfl

namespace Extraction

/-- Which field the walk takes has nothing to do with the index. -/
theorem fieldAt?_atIndex (r : Record) (l : Locator) (index : UInt64) :
    fieldAt? r (l.atIndex index).target = fieldAt? r l.target := by
  obtain ⟨reference, target⟩ := l
  cases target with
  | field selector => rfl
  | customField selector => rfl
  | file name => rfl

/-! ### What is selected, strictly and leniently -/

section SelectedValues

variable {selector : Selector} {index : UInt64} {values : List Json}

theorem selectedValues_of_index_none (h : selector.index = none) (strict : Bool)
    (values : List Json) : selectedValues strict selector values = .ok values := by
  simp only [selectedValues, h]

/-- An index within the values selects the one value at it, strictly or not. -/
theorem selectedValues_of_getElem? (h : selector.index = some index) {value : Json}
    (hvalue : values[index.toNat]? = some value) (strict : Bool) :
    selectedValues strict selector values = .ok [value] := by
  simp only [selectedValues, h, hvalue]

theorem selectedValues_strict_of_pastEnd (h : selector.index = some index)
    (hpast : values.length ≤ index.toNat) :
    selectedValues true selector values = .error (.fieldNotFound (selector.elementText index)) := by
  have hnone : values[index.toNat]? = none := List.getElem?_eq_none hpast
  simp only [selectedValues, h, hnone, if_pos]

theorem selectedValues_lenient_of_pastEnd (h : selector.index = some index)
    (hpast : values.length ≤ index.toNat) :
    selectedValues false selector values = .ok (values.take 1) := by
  have hnone : values[index.toNat]? = none := List.getElem?_eq_none hpast
  simp only [selectedValues, h, hnone, Bool.false_eq_true, if_false]

/-- Leniently, the index of the first element selects the first value, or none if there is none. -/
theorem selectedValues_lenient_zero (selector : Selector) (values : List Json) :
    selectedValues false (selector.atIndex 0) values = .ok (values.take 1) := by
  cases values with
  | nil => exact selectedValues_lenient_of_pastEnd rfl (Nat.zero_le _)
  | cons first rest => exact selectedValues_of_getElem? rfl rfl false

end SelectedValues

/-! ### What is shown of it -/

/-- What is shown of some values of a field: they are decoded, and then the part that the selector
asks for is taken. -/
def shownOf (field : StoredField) (selector : Selector) (unmask : Bool) (values : List Json) :
    Except Error ShownValue := do
  let value ← orAbsent selector
    (ShownValue.decode field.fieldType field.effectiveLabel unmask values)
  project selector value

theorem pick_of_selectedValues_ok {strict : Bool} {field : StoredField} {selector : Selector}
    {values : List Json} (h : selectedValues strict selector field.values = .ok values)
    (unmask : Bool) :
    pick strict (some field) selector unmask = shownOf field selector unmask values := by
  rw [pick, h]
  rfl

theorem pick_of_selectedValues_error {strict : Bool} {field : StoredField} {selector : Selector}
    {e : Error} (h : selectedValues strict selector field.values = .error e) (unmask : Bool) :
    pick strict (some field) selector unmask = .error e := by
  rw [pick, h]
  rfl

/-! ### Places with an index -/

/-- **A locator leads to an element of a field** of a record: it has an index, and the walk finds
the field. Whether the field has such an element is not said. -/
structure LeadsTo (r : Record) (l : Locator) (selector : Selector) (index : UInt64)
    (field : StoredField) : Prop where
  selects : l.selector? = some selector
  indexed : selector.index = some index
  finds : fieldAt? r l.target = some field

/-- **A locator leads past the end** of the field that it finds in a record. -/
def LeadsPastEnd (r : Record) (l : Locator) : Prop :=
  ∃ selector index field, LeadsTo r l selector index field ∧ field.values.length ≤ index.toNat

section LeadsTo

variable {r : Record} {l : Locator} {selector : Selector} {index : UInt64} {field : StoredField}

theorem LeadsTo.valueAt_eq (h : LeadsTo r l selector index field) (strict unmask : Bool) :
    valueAt strict r l unmask = pick strict (some field) selector unmask := by
  rw [valueAt_eq_pick h.selects, h.finds]

/-- **Within the values**, the one element is decoded alone, strictly or not. -/
theorem LeadsTo.valueAt_of_getElem? (h : LeadsTo r l selector index field) {value : Json}
    (hvalue : field.values[index.toNat]? = some value) (strict unmask : Bool) :
    valueAt strict r l unmask = shownOf field selector unmask [value] := by
  rw [h.valueAt_eq]
  exact pick_of_selectedValues_ok (selectedValues_of_getElem? h.indexed hvalue strict) unmask

/-- **Past the end**, strictly, there is nothing. -/
theorem LeadsTo.valueAt_strict (h : LeadsTo r l selector index field)
    (hpast : field.values.length ≤ index.toNat) (unmask : Bool) :
    valueAt true r l unmask = .error (.fieldNotFound (selector.elementText index)) := by
  rw [h.valueAt_eq]
  exact pick_of_selectedValues_error (selectedValues_strict_of_pastEnd h.indexed hpast) unmask

/-- The locator of the first element leads to the same field. -/
theorem LeadsTo.atIndex (h : LeadsTo r l selector index field) (other : UInt64) :
    LeadsTo r (l.atIndex other) (selector.atIndex other) other field where
  selects := by rw [Locator.selector?_atIndex, h.selects, Option.map_some]
  indexed := rfl
  finds := by rw [fieldAt?_atIndex, h.finds]

/-- **Past the end**, leniently, there is what there is at the first index. -/
theorem LeadsTo.valueAt_lenient (h : LeadsTo r l selector index field)
    (hpast : field.values.length ≤ index.toNat) (unmask : Bool) :
    valueAt false r l unmask = valueAt false r (l.atIndex 0) unmask := by
  have hfirst : pick false (some field) (selector.atIndex 0) unmask =
      shownOf field (selector.atIndex 0) unmask (field.values.take 1) :=
    pick_of_selectedValues_ok (selectedValues_lenient_zero selector field.values) unmask
  have hhere : pick false (some field) selector unmask =
      shownOf field selector unmask (field.values.take 1) :=
    pick_of_selectedValues_ok (selectedValues_lenient_of_pastEnd h.indexed hpast) unmask
  rw [h.valueAt_eq, (h.atIndex 0).valueAt_eq, hhere, hfirst]
  -- What is shown of the same values depends on the name and on the property, not on the index.
  rfl

end LeadsTo

/-- Without a selector there is no index that could be past the end. -/
theorem valueAt_congr_of_selector?_none {l : Locator} (h : l.selector? = none)
    (strict strict' : Bool) (r : Record) (unmask : Bool) :
    valueAt strict r l unmask = valueAt strict' r l unmask := by
  obtain ⟨reference, target⟩ := l
  cases target with
  | field selector => cases h
  | customField selector => cases h
  | file name => rfl

/-- **The walk is the same, strict or lenient, but past the end.** -/
theorem eq_or_leadsPastEnd (r : Record) (l : Locator) (unmask : Bool) :
    valueAt true r l unmask = valueAt false r l unmask ∨ LeadsPastEnd r l := by
  cases hselector : l.selector? with
  | none => exact Or.inl (valueAt_congr_of_selector?_none hselector true false r unmask)
  | some selector =>
    rw [valueAt_eq_pick hselector, valueAt_eq_pick hselector]
    cases hfield : fieldAt? r l.target with
    | none => exact Or.inl rfl
    | some field =>
      -- It is enough that both select the same values.
      have hpick {values : List Json}
          (h : ∀ strict, selectedValues strict selector field.values = .ok values) :
          pick true (some field) selector unmask = pick false (some field) selector unmask := by
        rw [pick_of_selectedValues_ok (h true), pick_of_selectedValues_ok (h false)]
      cases hindex : selector.index with
      | none =>
        exact Or.inl (hpick fun strict => selectedValues_of_index_none hindex strict field.values)
      | some index =>
        rcases Nat.lt_or_ge index.toNat field.values.length with hlt | hpast
        · exact Or.inl (hpick (selectedValues_of_getElem? hindex (List.getElem?_eq_getElem hlt)))
        · exact Or.inr ⟨selector, index, field, ⟨hselector, hindex, hfield⟩, hpast⟩

/-- A value that the strict walk finds is found by the lenient one. -/
theorem valueAt_lenient_of_strict {r : Record} {l : Locator} {unmask : Bool} {value : ShownValue}
    (h : valueAt true r l unmask = .ok value) : valueAt false r l unmask = .ok value := by
  rcases eq_or_leadsPastEnd r l unmask with heq | ⟨selector, index, field, hleads, hpast⟩
  · rwa [← heq]
  · rw [hleads.valueAt_strict hpast] at h
    cases h

end Extraction

/-! ### Two gateways to one vault -/

namespace Gateway

open Extraction (valueAt LeadsTo LeadsPastEnd shownOf)

variable {σ : Type}

/-- A gateway that is strict about indices, or lenient, and otherwise as it was. -/
def withStrictIndex (g : Gateway σ) (strict : Bool) : Gateway σ :=
  { g with settings := { g.settings with strictIndex := strict } }

/-- When a gateway turns to all records does not depend on its settings. -/
theorem TurnsToRecords.withStrictIndex {g : Gateway σ} {text : String} {l : Locator}
    {state state' : σ} (h : g.TurnsToRecords text l state state') (strict : Bool) :
    (g.withStrictIndex strict).TurnsToRecords text l state state' := by
  cases h with
  | file hkind => exact .file hkind
  | ambiguous hkind hlookup => exact .ambiguous hkind hlookup

/-- **Only a walk tells strict and lenient gateways apart**: a resolution gives the same whether
indices are strict or not, or it is the walk in one and the same record. -/
theorem resolveText_withStrictIndex (g : Gateway σ) (text : String) (unmask : Bool) (state : σ) :
    (∃ answer, ∀ strict, (g.withStrictIndex strict).resolveText text unmask state = answer) ∨
      ∃ r l state', ∀ strict, (g.withStrictIndex strict).resolveText text unmask state =
        (valueAt strict r l unmask, state') := by
  obtain ⟨answer, hcourse⟩ := exists_resolveCourse g text unmask state
  -- A course that is open to the one gateway is open to the other, and leads to the same answer
  -- unless there is a walk at its end.
  cases hcourse with
  | rejected hscreen =>
    exact Or.inl ⟨_, fun strict =>
      (ResolveCourse.rejected (g := g.withStrictIndex strict) hscreen).eq⟩
  | found h hkind hlookup =>
    exact Or.inl ⟨_, fun strict =>
      (ResolveCourse.found (g := g.withStrictIndex strict) h hkind hlookup).eq⟩
  | refused h hkind hlookup hambiguous =>
    exact Or.inl ⟨_, fun strict =>
      (ResolveCourse.refused (g := g.withStrictIndex strict) h hkind hlookup hambiguous).eq⟩
  | withheld h hturns hreply =>
    exact Or.inl ⟨_, fun strict =>
      (ResolveCourse.withheld h (hturns.withStrictIndex strict) hreply).eq⟩
  | unselected h hturns hreply hselect =>
    exact Or.inl ⟨_, fun strict =>
      (ResolveCourse.unselected h (hturns.withStrictIndex strict) hreply hselect).eq⟩
  | @selected l _ _ _ r h hturns hreply hselect =>
    exact Or.inr ⟨r, l, _, fun strict =>
      (ResolveCourse.selected h (hturns.withStrictIndex strict) hreply hselect).eq⟩

/-- A value that the strict gateway resolves is resolved by the lenient one. -/
theorem resolve_lenient_of_strict (g : Gateway σ) {text : String} {unmask : Bool} {state : σ}
    {value : ShownValue}
    (h : ((g.withStrictIndex true).resolve text unmask state).result = .ok value) :
    ((g.withStrictIndex false).resolve text unmask state).result = .ok value := by
  change ((g.withStrictIndex true).resolveText text unmask state).1 = .ok value at h
  change ((g.withStrictIndex false).resolveText text unmask state).1 = .ok value
  rcases resolveText_withStrictIndex g text unmask state with
    ⟨answer, hsame⟩ | ⟨r, l, state', hwalk⟩
  · rw [hsame] at h ⊢
    exact h
  · rw [hwalk] at h ⊢
    exact Extraction.valueAt_lenient_of_strict h

/-- **Strict indices only remove answers.** What a strict gateway resolves, the lenient one resolves
to the same value. The two walks in a record differ only where the locator leads past the end of
the field that it finds. Wherever it does, the strict walk reports the element as absent, and the
lenient walk gives what it gives for the first index. Where it leads to an element that is there,
both walks give what that element alone is decoded to, and the part that is asked for. -/
theorem strictIndex_only_removes :
    (∀ (g : Gateway σ) (text : String) (unmask : Bool) (state : σ) (value : ShownValue),
      ((g.withStrictIndex true).resolve text unmask state).result = .ok value →
        ((g.withStrictIndex false).resolve text unmask state).result = .ok value) ∧
    (∀ (r : Record) (l : Locator) (unmask : Bool),
      valueAt true r l unmask ≠ valueAt false r l unmask → LeadsPastEnd r l) ∧
    ∀ (r : Record) (l : Locator) (unmask : Bool) (selector : Selector) (index : UInt64)
      (field : StoredField), LeadsTo r l selector index field →
      (field.values.length ≤ index.toNat →
        valueAt true r l unmask = .error (.fieldNotFound (selector.elementText index)) ∧
        valueAt false r l unmask = valueAt false r (l.atIndex 0) unmask) ∧
      ∀ (value : Json), field.values[index.toNat]? = some value → ∀ (strict : Bool),
        valueAt strict r l unmask = shownOf field selector unmask [value] := by
  refine ⟨fun g text unmask state value h => resolve_lenient_of_strict g h, ?_, ?_⟩
  · intro r l unmask hdiffer
    exact (Extraction.eq_or_leadsPastEnd r l unmask).resolve_left hdiffer
  · intro r l unmask selector index field hleads
    refine ⟨fun hpast => ⟨hleads.valueAt_strict hpast unmask, hleads.valueAt_lenient hpast unmask⟩,
      fun value hvalue strict => hleads.valueAt_of_getElem? hvalue strict unmask⟩

/-- A login under a title that two records share is resolved either way. Of an address that a login
does not have, and of the first code where there is none, only the strict walk says so; its second
address is the same for both. -/
theorem strictIndex_only_removes_samples :
    let g : Gateway (List String) := ⟨InMemoryVault.toVault ⟨Samples.all, none⟩, {}⟩
    let place (name : String) (index : UInt64) : Locator :=
      ⟨.title "Production Admin", .field ⟨name, some index, none⟩⟩
    ((g.withStrictIndex false).resolve "Shared Login/field/login[0]" true []).result =
        .ok (.text "shared@example.com") ∧
      LeadsPastEnd Samples.login (place "url" 9) ∧
      valueAt true Samples.login (place "url" 9) true = .error (.fieldNotFound "url[9]") ∧
      valueAt false Samples.login (place "url" 9) true =
        valueAt false Samples.login (place "url" 0) true ∧
      valueAt true Samples.login (place "oneTimeCode" 0) true =
        .error (.fieldNotFound "oneTimeCode[0]") ∧
      ∀ strict, valueAt strict Samples.login (place "url" 1) true =
        .ok (.text "https://backup.example.com") := by
  intro g place
  obtain ⟨hresolve, hdiffer, hindex⟩ := strictIndex_only_removes (σ := List String)
  have hurl (index : UInt64) : LeadsTo Samples.login (place "url" index) ⟨"url", some index, none⟩
      index
        { fieldType := "url"
          values := [.str "https://console.example.com", .str "https://backup.example.com"] } :=
    ⟨rfl, rfl, rfl⟩
  have hcode : LeadsTo Samples.login (place "oneTimeCode" 0) ⟨"oneTimeCode", some 0, none⟩ 0
      { fieldType := "oneTimeCode" } := ⟨rfl, rfl, rfl⟩
  obtain ⟨hstrict, hlenient⟩ := (hindex _ _ true _ _ _ (hurl 9)).1 (by decide)
  refine ⟨hresolve g "Shared Login/field/login[0]" true [] _ rfl, hdiffer _ _ true ?_, hstrict,
    hlenient, ((hindex _ _ true _ _ _ hcode).1 (by decide)).1, ?_⟩
  · have hfirst : valueAt false Samples.login (place "url" 9) true =
        .ok (.text "https://console.example.com") := rfl
    rw [hstrict, hfirst]
    exact nofun
  · intro strict
    exact (hindex _ _ true _ _ _ (hurl 1)).2 _ rfl strict

end Gateway

end VaultLocator
