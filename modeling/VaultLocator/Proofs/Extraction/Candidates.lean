import VaultLocator.Proofs.Extraction.WholeRecord

/-!
# The fields that a name may stand for

A name may be the type of a standard field, the type of a custom field, or the label of the one or
of the other. In this order these are the *candidates* for the name
(`VaultLocator.Extraction.candidates`), and one would have the value of the first of them that can
be decoded.

The extraction by name goes another way. It takes two steps, first by type and then by label, and in
either step it settles on the standard field if there is one before it has decoded it
(`VaultLocator.Extraction.tried`). So a standard field that cannot be decoded shadows the custom
field behind it, though not the fields of the next step. Where this is seen in the answer, the name
is *obstructed* (`VaultLocator.Extraction.Obstructed`); everywhere else the first candidate that can
be decoded is given, and nothing if there is none
(`VaultLocator.Extraction.valueNamed?_gives_first_tried`).
-/

namespace VaultLocator.Extraction

/-! ### First values -/

/-- **A result is the first value of some fields**: that of the first field that can be decoded, and
none exactly if none of them can. -/
structure GivesFirst (fields : List StoredField) (unmask : Bool) (result : Option ShownValue) :
    Prop where
  value : ∀ value, result = some value ↔
    ∃ field, IsFirst (fun field => field.Decodes unmask) fields field ∧
      field.decode unmask = .ok value
  nothing : result = none ↔ ∀ field ∈ fields, ¬field.Decodes unmask

section First

variable {unmask : Bool} {fields : List StoredField} {result : Option ShownValue}

theorem decoded?_eq_none_iff {field : StoredField} :
    decoded? field unmask = none ↔ ¬field.Decodes unmask := by
  rw [StoredField.Decodes, Option.eq_none_iff_forall_ne_some, not_exists]
  exact forall_congr' fun value => not_congr decoded?_eq_some_iff

theorem givesFirst_findSome? (fields : List StoredField) (unmask : Bool) :
    GivesFirst fields unmask (fields.findSome? (decoded? · unmask)) where
  value value := by
    rw [findSome?_eq_some_iff_isFirst]
    simp only [decoded?_eq_some_iff]
    exact Iff.rfl
  nothing := by
    rw [List.findSome?_eq_none_iff]
    exact forall₂_congr fun _ _ => decoded?_eq_none_iff

/-- **Some fields have only one first value**, and a search finds it. -/
theorem givesFirst_iff :
    GivesFirst fields unmask result ↔ result = fields.findSome? (decoded? · unmask) := by
  constructor
  · intro h
    exact Option.ext fun value =>
      (h.value value).trans ((givesFirst_findSome? fields unmask).value value).symm
  · rintro rfl
    exact givesFirst_findSome? fields unmask

theorem findSome?_toList {α β : Type} (o : Option α) (f : α → Option β) :
    o.toList.findSome? f = o.bind f := by
  cases o with
  | none => rfl
  | some a =>
    rw [Option.toList_some, List.findSome?_singleton, Option.bind_some]

end First

/-! ### Two fields, one before the other -/

/-- **A field shadows another one**: both are there, the one that comes first cannot be decoded, and
the other has the value. -/
def Shadows (unmask : Bool) (front behind : Option StoredField) (value : ShownValue) : Prop :=
  ∃ field field', front = some field ∧ ¬field.Decodes unmask ∧ behind = some field' ∧
    field'.decode unmask = .ok value

section Shadows

variable {unmask : Bool} {front behind : Option StoredField} {value : ShownValue}

/-- Who settles on the field in front gets nothing of what it shadows. -/
theorem Shadows.bind_or (h : Shadows unmask front behind value) :
    (front.or behind).bind (decoded? · unmask) = none := by
  obtain ⟨field, field', rfl, hfield, -, -⟩ := h
  rw [Option.some_or, Option.bind_some]
  exact decoded?_eq_none_iff.mpr hfield

/-- Who tries one field after the other does. -/
theorem Shadows.or_bind (h : Shadows unmask front behind value) :
    (front.bind (decoded? · unmask)).or (behind.bind (decoded? · unmask)) = some value := by
  obtain ⟨field, field', rfl, hfield, rfl, hvalue⟩ := h
  rw [Option.bind_some, decoded?_eq_none_iff.mpr hfield, Option.none_or, Option.bind_some]
  exact decoded?_eq_some_iff.mpr hvalue

/-- **Without a shadow it makes no difference** when a field is settled on. -/
theorem bind_or_of_not_shadows (h : ∀ value, ¬Shadows unmask front behind value) :
    (front.or behind).bind (decoded? · unmask) =
      (front.bind (decoded? · unmask)).or (behind.bind (decoded? · unmask)) := by
  cases front with
  | none => rw [Option.none_or, Option.bind_none, Option.none_or]
  | some field =>
    rw [Option.some_or, Option.bind_some]
    cases hvalue : decoded? field unmask with
    | some value => rw [Option.some_or]
    | none =>
      rw [Option.none_or]
      have hfield : ¬field.Decodes unmask := decoded?_eq_none_iff.mp hvalue
      cases behind with
      | none => rw [Option.bind_none]
      | some field' =>
        rw [Option.bind_some, eq_comm, decoded?_eq_none_iff]
        rintro ⟨value, hvalue'⟩
        exact h value ⟨field, field', rfl, hfield, rfl, hvalue'⟩

/-- Neither field has a value. -/
theorem or_bind_eq_none_iff :
    (front.bind (decoded? · unmask)).or (behind.bind (decoded? · unmask)) = none ↔
      ∀ field, front = some field ∨ behind = some field → ¬field.Decodes unmask := by
  simp only [Option.or_eq_none_iff, Option.bind_eq_none_iff, decoded?_eq_none_iff]
  constructor
  · rintro ⟨hfront, hbehind⟩ field (hfield | hfield)
    · exact hfront field hfield
    · exact hbehind field hfield
  · intro h
    exact ⟨fun field hfield => h field (Or.inl hfield), fun field hfield => h field (Or.inr hfield)⟩

end Shadows

/-! ### Candidates -/

/-- **The candidates for a name**: the first standard field of that type, the first custom field of
that type, the first standard field with that label, and the first custom field with that label. -/
def candidates (r : Record) (name : String) : List StoredField :=
  ((r.fieldOfType? name).toList ++ (r.customOfType? name).toList) ++
    ((r.fieldLabelled? name).toList ++ (r.customLabelled? name).toList)

/-- The candidates that are tried: of each type and of each label, the custom field only if there is
no standard field. -/
def tried (r : Record) (name : String) : List StoredField :=
  ((r.fieldOfType? name).or (r.customOfType? name)).toList ++ (r.anyLabelled? name).toList

/-- **A name is obstructed** in a record: a candidate has a value, and a field before it, which has
none, keeps it from being given. -/
inductive Obstructed (r : Record) (name : String) (unmask : Bool) : Prop
  /-- A standard field shadows a custom field of the same type, and the field with the label does
  not happen to have the same value. -/
  | byType {value : ShownValue} :
      Shadows unmask (r.fieldOfType? name) (r.customOfType? name) value →
      (∀ field, r.anyLabelled? name = some field → field.decode unmask ≠ .ok value) →
      Obstructed r name unmask
  /-- No field of the type can be decoded, and a standard field shadows a custom field with the same
  label. -/
  | byLabel {value : ShownValue} :
      (∀ field, r.fieldOfType? name = some field ∨ r.customOfType? name = some field →
        ¬field.Decodes unmask) →
      Shadows unmask (r.fieldLabelled? name) (r.customLabelled? name) value →
      Obstructed r name unmask

section Candidates

variable {r : Record} {name : String} {unmask : Bool}

theorem findSome?_candidates :
    (candidates r name).findSome? (decoded? · unmask) =
      (((r.fieldOfType? name).bind (decoded? · unmask)).or
        ((r.customOfType? name).bind (decoded? · unmask))).or
      (((r.fieldLabelled? name).bind (decoded? · unmask)).or
        ((r.customLabelled? name).bind (decoded? · unmask))) := by
  simp only [candidates, List.findSome?_append, findSome?_toList]

theorem fieldNamed?_eq_findSome?_tried :
    fieldNamed? r name unmask = (tried r name).findSome? (decoded? · unmask) := by
  rw [fieldNamed?, tried, List.findSome?_append, findSome?_toList, findSome?_toList]

/-- **Behind the shadow of a type** a name is obstructed, unless the field with the label happens to
have the value that is shadowed. -/
theorem obstructed_iff_of_shadows {value : ShownValue}
    (h : Shadows unmask (r.fieldOfType? name) (r.customOfType? name) value) :
    Obstructed r name unmask ↔
      ∀ field, r.anyLabelled? name = some field → field.decode unmask ≠ .ok value := by
  constructor
  · rintro (⟨hshadow, hother⟩ | ⟨hnone, -⟩)
    · -- There is only one value that is shadowed.
      have hsame := Option.some.inj (hshadow.or_bind.symm.trans h.or_bind)
      rwa [← hsame]
    · obtain ⟨-, field', -, -, hbehind, hvalue⟩ := h
      exact absurd ⟨value, hvalue⟩ (hnone field' (Or.inr hbehind))
  · exact .byType h

/-- **Without the shadow of a type** a name is obstructed if the type decides nothing, and there is
the shadow of a label. -/
theorem obstructed_iff_of_not_shadows
    (h : ∀ value, ¬Shadows unmask (r.fieldOfType? name) (r.customOfType? name) value) :
    Obstructed r name unmask ↔
      ((r.fieldOfType? name).bind (decoded? · unmask)).or
          ((r.customOfType? name).bind (decoded? · unmask)) = none ∧
        ∃ value, Shadows unmask (r.fieldLabelled? name) (r.customLabelled? name) value := by
  rw [or_bind_eq_none_iff]
  constructor
  · rintro (⟨hshadow, -⟩ | ⟨hnone, hshadow⟩)
    · exact absurd hshadow (h _)
    · exact ⟨hnone, _, hshadow⟩
  · rintro ⟨hnone, value, hshadow⟩
    exact .byLabel hnone hshadow

/-- **By name the first candidate with a value is found exactly if the name is not obstructed.** -/
theorem fieldNamed?_eq_findSome?_candidates_iff :
    fieldNamed? r name unmask = (candidates r name).findSome? (decoded? · unmask) ↔
      ¬Obstructed r name unmask := by
  rw [findSome?_candidates, fieldNamed?]
  by_cases htype : ∃ value, Shadows unmask (r.fieldOfType? name) (r.customOfType? name) value
  · obtain ⟨value, htype⟩ := htype
    rw [obstructed_iff_of_shadows htype, htype.bind_or, htype.or_bind, Option.none_or,
      Option.some_or, Option.bind_eq_some_iff]
    simp only [decoded?_eq_some_iff, not_forall, not_not, exists_prop]
  have hshadow := not_exists.mp htype
  rw [obstructed_iff_of_not_shadows hshadow, bind_or_of_not_shadows hshadow]
  -- Both begin with what the type decides; they may only differ if it decides nothing.
  cases ((r.fieldOfType? name).bind (decoded? · unmask)).or
      ((r.customOfType? name).bind (decoded? · unmask)) with
  | some value =>
    rw [Option.some_or, Option.some_or]
    exact iff_of_true rfl fun h => Option.some_ne_none value h.1
  | none =>
    rw [Option.none_or, Option.none_or, Record.anyLabelled?]
    by_cases hlabel : ∃ value,
        Shadows unmask (r.fieldLabelled? name) (r.customLabelled? name) value
    · obtain ⟨value, hlabel⟩ := hlabel
      rw [hlabel.bind_or, hlabel.or_bind]
      exact iff_of_false (Option.some_ne_none value).symm (not_not_intro ⟨rfl, value, hlabel⟩)
    · rw [bind_or_of_not_shadows (not_exists.mp hlabel)]
      exact iff_of_true rfl fun h => hlabel h.2

end Candidates

/-- **What a name gives**, for every record, in clear or not: the value of the first field that can
be decoded among those that are tried, and nothing exactly if none of them can. So it gives the
value of the first *candidate* that can be decoded, and nothing exactly if there is none, if and
only if the name is not obstructed. -/
theorem valueNamed?_gives_first_tried {name : String} (h : name ≠ "notes") (r : Record)
    (unmask : Bool) :
    GivesFirst (tried r name) unmask (valueNamed? r name unmask) ∧
      (GivesFirst (candidates r name) unmask (valueNamed? r name unmask) ↔
        ¬Obstructed r name unmask) := by
  rw [valueNamed?_eq, if_neg h, givesFirst_iff, givesFirst_iff]
  exact ⟨fieldNamed?_eq_findSome?_tried, fieldNamed?_eq_findSome?_candidates_iff⟩

/-- A login with an address that was never filled in, and one among its custom fields that was. -/
def blankAddress : Record :=
  { uid := "Ob1aaaaaaaaaaaaaaaaaaA"
    title := "Intranet"
    recordType := "login"
    fields := [{ fieldType := "url" }]
    custom := [Samples.textField "url" "https://intranet.example"] }

/-- By the name of their type the addresses of this login give nothing, which is what the one that
is tried gives, and not what the first candidate with a value does. -/
theorem valueNamed?_gives_first_tried_address :
    "url" ≠ "notes" ∧ GivesFirst (tried blankAddress "url") false none ∧
      ¬GivesFirst (candidates blankAddress "url") false none := by
  have hname : "url" ≠ "notes" := by decide
  obtain ⟨htried, hcandidates⟩ := valueNamed?_gives_first_tried hname blankAddress false
  have hshadows : Shadows false (blankAddress.fieldOfType? "url")
      (blankAddress.customOfType? "url") (.text "https://intranet.example") :=
    ⟨_, _, rfl, decoded?_eq_none_iff.mp rfl, rfl, rfl⟩
  have hobstructed : Obstructed blankAddress "url" false := .byType hshadows nofun
  exact ⟨hname, htried, fun h => hcandidates.mp h hobstructed⟩

/-- **Not every name gives the first candidate with a value**: an address that is there but empty
keeps the custom one from being given, although that can be decoded. -/
theorem not_forall_givesFirst_candidates :
    ¬∀ (r : Record) (name : String) (unmask : Bool), name ≠ "notes" → name ≠ "password" →
      GivesFirst (candidates r name) unmask (valueNamed? r name unmask) := by
  intro h
  have hfirst := givesFirst_iff.mp (h blankAddress "url" false (by decide) (by decide))
  have hnothing : valueNamed? blankAddress "url" false = none := rfl
  have hcustom : (candidates blankAddress "url").findSome? (decoded? · false) =
      some (.text "https://intranet.example") := rfl
  rw [hnothing, hcustom] at hfirst
  cases hfirst

end VaultLocator.Extraction
