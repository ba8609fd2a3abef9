import VaultLocator.Extraction

/-!
# What an extraction reports

An extraction that comes to nothing reports a *place*: the name of the field, or the name with the
index or with the property, each of them as the locator has it
(`VaultLocator.Locator.Place`). There is no other report – the reasons that the decoder gives are
replaced on the way – so nothing of what a field holds can be in it, whichever way is taken:
`VaultLocator.Extraction.reportsOnly_valueAt` for the walk in a record and
`VaultLocator.Extraction.reportsOnly_valueFound` for what a vault found.

The argument follows the steps of an extraction. Each of them reports only places of the selector
(`VaultLocator.Extraction.ReportsOnly`), and so do steps in a row.
-/

namespace VaultLocator

/-! ### Places -/

/-- **The places of a selector**, as reports write them: its field, the element of the field at its
index, and the part of the field under its property. -/
inductive Selector.Place (selector : Selector) : String → Prop
  | field : selector.Place selector.name
  | element {index : UInt64} : selector.index = some index →
      selector.Place (selector.name ++ "[" ++ Text.decimal index.toNat ++ "]")
  | part {property : String} : selector.property = some property →
      selector.Place (selector.name ++ "[" ++ property ++ "]")

/-- **The places of a locator**: those of its selector, or the name of its file. Nothing but the
locator has a part in them. -/
inductive Locator.Place (l : Locator) : String → Prop
  | file {name : String} : l.target = .file name → l.Place name
  | selector {selector : Selector} {what : String} : l.selector? = some selector →
      selector.Place what → l.Place what

namespace Selector

variable {selector : Selector}

theorem append_bracketed (s t : String) : s ++ bracketed t = s ++ "[" ++ t ++ "]" := by
  simp only [bracketed, String.append_assoc]

theorem place_elementText {index : UInt64} (h : selector.index = some index) :
    selector.Place (selector.elementText index) := by
  rw [elementText, append_bracketed]
  exact .element h

theorem place_partText {property : String} (h : selector.property = some property) :
    selector.Place (selector.partText property) := by
  rw [partText, append_bracketed]
  exact .part h

end Selector

namespace Extraction

/-! ### Reporting only places -/

section ReportsOnly

variable {α β : Type} {place : String → Prop}

/-- A result that, if there is none, reports the absence of something at one of some places. -/
def ReportsOnly (place : String → Prop) (result : Except Error α) : Prop :=
  ∀ e, result = .error e → ∃ what, place what ∧ e = .fieldNotFound what

theorem reportsOnly_ok (a : α) : ReportsOnly place (.ok a : Except Error α) := by
  intro e h
  cases h

theorem reportsOnly_error {what : String} (h : place what) :
    ReportsOnly place (.error (.fieldNotFound what) : Except Error α) := by
  intro e he
  exact ⟨what, h, (Except.error.inj he).symm⟩

/-- **Steps in a row** report only places if each of them does. -/
theorem ReportsOnly.bind {result : Except Error α} {f : α → Except Error β}
    (h : ReportsOnly place result) (hf : ∀ a, ReportsOnly place (f a)) :
    ReportsOnly place (result >>= f) := by
  cases result with
  | error e =>
    intro e' he'
    exact h e' (congrArg Except.error (Except.error.inj he'))
  | ok a => exact hf a

end ReportsOnly

/-! ### The steps of an extraction -/

section Steps

variable {strict unmask : Bool} {selector : Selector}

theorem reportsOnly_selectedValues (values : List Json) :
    ReportsOnly selector.Place (selectedValues strict selector values) := by
  rw [selectedValues]
  cases hindex : selector.index with
  | none => exact reportsOnly_ok values
  | some index =>
    cases hvalue : values[index.toNat]? with
    | some value => simpa only [hvalue] using reportsOnly_ok [value]
    | none =>
      simp only [hvalue]
      split
      · exact reportsOnly_error (Selector.place_elementText hindex)
      · exact reportsOnly_ok (values.take 1)

/-- The reasons of the decoder are not passed on. -/
theorem reportsOnly_orAbsent (result : Except Error ShownValue) :
    ReportsOnly selector.Place (orAbsent selector result) := by
  cases result with
  | ok value => exact reportsOnly_ok value
  | error e => exact reportsOnly_error Selector.Place.field

theorem reportsOnly_project (value : ShownValue) :
    ReportsOnly selector.Place (project selector value) := by
  rw [project]
  cases hproperty : selector.property with
  | none => exact reportsOnly_ok value
  | some property =>
    simp only
    split
    · exact reportsOnly_ok _
    · exact reportsOnly_error (Selector.place_partText hproperty)

theorem reportsOnly_pick (field : Option StoredField) :
    ReportsOnly selector.Place (pick strict field selector unmask) := by
  cases field with
  | none => exact reportsOnly_error Selector.Place.field
  | some field =>
    refine (reportsOnly_selectedValues field.values).bind fun values => ?_
    exact (reportsOnly_orAbsent _).bind reportsOnly_project

theorem reportsOnly_scalarPart (property : String) (found : FoundField) (first : Json) :
    ReportsOnly selector.Place (scalarPart selector property found unmask first) := by
  cases first with
  | null => exact reportsOnly_error Selector.Place.field
  | _ => exact reportsOnly_ok _

theorem reportsOnly_foundPart (property : String) (found : FoundField) :
    ReportsOnly selector.Place (foundPart selector property found unmask) := by
  rw [foundPart]
  split
  · exact reportsOnly_error Selector.Place.field
  · split
    · exact reportsOnly_scalarPart property found _
    · exact (reportsOnly_orAbsent _).bind reportsOnly_project

end Steps

/-! ### The two ways to a value -/

theorem ReportsOnly.of_selector {l : Locator} {selector : Selector}
    (hselector : l.selector? = some selector) {result : Except Error ShownValue}
    (h : ReportsOnly selector.Place result) : ReportsOnly l.Place result := by
  intro e he
  obtain ⟨what, hwhat, rfl⟩ := h e he
  exact ⟨what, .selector hselector hwhat, rfl⟩

/-- **The walk in a record reports only places of the locator.** -/
theorem reportsOnly_valueAt (strict : Bool) (r : Record) (l : Locator) (unmask : Bool) :
    ReportsOnly l.Place (valueAt strict r l unmask) := by
  obtain ⟨reference, target⟩ := l
  cases target with
  | field selector => exact .of_selector rfl (reportsOnly_pick _)
  | customField selector => exact .of_selector rfl (reportsOnly_pick _)
  | file name =>
    rw [valueAt]
    simp only
    split
    · exact reportsOnly_ok _
    · exact reportsOnly_error (.file rfl)

theorem valueFound_of_selector? {l : Locator} {selector : Selector}
    (h : l.selector? = some selector) (found : FoundField) (unmask : Bool) :
    valueFound l found unmask =
      match selector.property with
      | none =>
        orAbsent selector (ShownValue.decode found.fieldType found.label unmask found.values)
      | some property => foundPart selector property found unmask := by
  obtain ⟨reference, target⟩ := l
  cases target with
  | field s =>
    cases h
    rfl
  | customField s =>
    cases h
    rfl
  | file name => cases h

/-- **What a vault found is reported to be of no use only with places of the locator.** -/
theorem reportsOnly_valueFound (l : Locator) (found : FoundField) (unmask : Bool) :
    ReportsOnly l.Place (valueFound l found unmask) := by
  cases hselector : l.selector? with
  | none =>
    obtain ⟨reference, target⟩ := l
    cases target with
    | file name => exact reportsOnly_error (.file rfl)
    | _ => cases hselector
  | some selector =>
    refine .of_selector hselector ?_
    rw [valueFound_of_selector? hselector]
    cases selector.property with
    | none => exact reportsOnly_orAbsent _
    | some property => exact reportsOnly_foundPart property found

end Extraction

end VaultLocator
