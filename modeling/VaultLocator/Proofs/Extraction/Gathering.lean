import Mathlib.Logic.Basic
import VaultLocator.Extraction
import VaultLocator.Proofs.Field.Decoding

/-!
# What an extraction gathers

An extraction from a record gathers values under names in a dictionary, one after the other. What
is found in the dictionary in the end is said here name by name, without the order of the steps:
`VaultLocator.Extraction.get?_standardValues` and `VaultLocator.Extraction.get?_customValues` for
whole records, where the first value under a name stays, and
`VaultLocator.Extraction.get?_valuesNamed` for the values under given names. Each of these is a
field that is decoded, the notes apart: the password of a record is found in a way of its own, but
what is found is the decoded field (`VaultLocator.Extraction.valueNamed?_eq`).
-/

namespace VaultLocator.Extraction

/-! ### Whole records -/

theorem get?_enterNew (values : Dict ShownValue) (name key : String)
    (value : Option ShownValue) :
    (enterNew values name value).get? key =
      (values.get? key).or (if name = key then value else none) := by
  cases value with
  | none => rw [enterNew, ite_self, Option.or_none]
  | some v =>
    rw [enterNew]
    by_cases hname : name = key
    · subst hname
      rw [if_pos rfl, Dict.contains]
      cases hget : values.get? name with
      | none => exact (Dict.get?_insert values name name v).trans (if_pos rfl)
      | some old => exact hget
    · rw [if_neg hname, Option.or_none]
      split
      · rfl
      · rw [Dict.get?_insert, if_neg hname]

/-- Of the values that are entered under a name the first one stays. -/
theorem get?_foldl_enterNew {α : Type} (name : α → String) (value : α → Option ShownValue)
    (items : List α) (values : Dict ShownValue) (key : String) :
    (items.foldl (fun values item => enterNew values (name item) (value item)) values).get? key =
      (values.get? key).or
        (items.findSome? fun item => if name item = key then value item else none) := by
  induction items generalizing values with
  | nil => rw [List.foldl_nil, List.findSome?_nil, Option.or_none]
  | cons item rest ih =>
    rw [List.foldl_cons, ih, get?_enterNew, Option.or_assoc, List.findSome?_cons]
    cases (if name item = key then value item else none) with
    | none => rfl
    | some v => rfl

theorem findSome?_ite_eq {α : Type} (f : String → Option α) (names : List String) (key : String) :
    (names.findSome? fun name => if name = key then f name else none) =
      if key ∈ names then f key else none := by
  induction names with
  | nil => rfl
  | cons name rest ih =>
    rw [List.findSome?_cons, ih]
    by_cases hname : name = key
    · subst hname
      rw [if_pos rfl, if_pos List.mem_cons_self]
      cases f name with
      | none => exact ite_self none
      | some v => rfl
    · simp only [if_neg hname, List.mem_cons, Ne.symm hname, false_or]

/-- **The standard values of a record**: under each of the types its first field of that type, if
that can be decoded. -/
theorem get?_standardValues (r : Record) (unmask : Bool) (fieldTypes : List String)
    (key : String) :
    (standardValues r unmask fieldTypes).get? key =
      if key ∈ fieldTypes then (r.fieldOfType? key).bind (decoded? · unmask) else none := by
  let value (fieldType : String) : Option ShownValue :=
    (r.fieldOfType? fieldType).bind (decoded? · unmask)
  exact (get?_foldl_enterNew id value fieldTypes Dict.empty key).trans
    (findSome?_ite_eq value fieldTypes key)

/-- **The custom values of a record**: under each heading its first field that can be decoded. -/
theorem get?_customValues (custom : List StoredField) (unmask : Bool) (key : String) :
    (customValues custom unmask).get? key =
      custom.findSome? fun field =>
        if field.heading = key then decoded? field unmask else none := by
  rw [customValues, get?_foldl_enterNew StoredField.heading (decoded? · unmask),
    Dict.get?_empty, Option.none_or]

/-! ### Values under given names -/

theorem fieldType_of_fieldOfType? {r : Record} {fieldType : String} {field : StoredField}
    (h : r.fieldOfType? fieldType = some field) : field.fieldType = fieldType := by
  rw [Record.fieldOfType?] at h
  have hpred := List.find?_some h
  exact beq_iff_eq.mp hpred

/-- The own password of a record is the text that its password field begins with. -/
theorem exists_of_ownPassword? {r : Record} {password : String}
    (h : r.ownPassword? = some password) :
    ∃ field rest, r.fieldOfType? "password" = some field ∧ field.fieldType = "password" ∧
      field.values = .str password :: rest := by
  obtain ⟨field, hfield, hhead⟩ := Option.bind_eq_some_iff.mp h
  obtain ⟨first, hfirst, htext⟩ := Option.bind_eq_some_iff.mp hhead
  obtain ⟨rest, hvalues⟩ := List.head?_eq_some_iff.mp hfirst
  refine ⟨field, rest, hfield, fieldType_of_fieldOfType? hfield, ?_⟩
  cases first with
  | str s =>
    cases htext
    exact hvalues
  | _ => cases htext

/-- A password field that begins with a text is decoded to it, or to its mask. -/
theorem decoded?_of_password {field : StoredField} {password : String} {rest : List Json}
    (htype : field.fieldType = "password") (hvalues : field.values = .str password :: rest)
    (unmask : Bool) : decoded? field unmask = some (.text (Secret.shown unmask password)) := by
  have hscalar : Shape.ofType field.fieldType = .scalar := by rw [htype]; rfl
  have hsecret : ShownValue.isSecret field.fieldType field.effectiveLabel = true := by
    rw [htype, ShownValue.isSecret]
    rfl
  have hdecode : field.decode unmask = .ok (.text (Secret.shown unmask password)) := by
    refine (ShownValue.decode_eq_ok_iff_of_scalar hscalar).mpr
      ⟨_, rest, password, hvalues, rfl, ?_⟩
    rw [if_pos hsecret]
  rw [decoded?, hdecode]
  rfl

/-- **A value by name** is that of a field, but for the notes. The own password of a record is no
exception: it is what its password field is decoded to. -/
theorem valueNamed?_eq (r : Record) (name : String) (unmask : Bool) :
    valueNamed? r name unmask =
      if name = "notes" then (notes? r).map .text else fieldNamed? r name unmask := by
  rw [valueNamed?]
  split
  · rfl
  split
  · next hname =>
    cases hown : r.ownPassword? with
    | none => rfl
    | some password =>
      obtain ⟨field, rest, hfield, htype, hvalues⟩ := exists_of_ownPassword? hown
      rw [fieldNamed?, hname, hfield, Option.some_or, Option.bind_some,
        decoded?_of_password htype hvalues, Option.some_or]
  · rfl

/-- Entering what a function gives for some names: its value under each of them that has one. -/
theorem get?_foldl_insert {α : Type} (f : String → Option α) (names : List String) (d : Dict α)
    (key : String) :
    ((names.filterMap fun name => (f name).map fun value => (name, value)).foldl
        (fun d pair => d.insert pair.1 pair.2) d).get? key =
      if key ∈ names then (f key).or (d.get? key) else d.get? key := by
  induction names generalizing d with
  | nil => rfl
  | cons name rest ih =>
    cases hvalue : f name with
    | none =>
      rw [List.filterMap_cons_none (by rw [hvalue]; rfl), ih]
      by_cases hname : key = name
      · subst hname
        rw [if_pos List.mem_cons_self, hvalue, Option.none_or, ite_self]
      · simp only [List.mem_cons, hname, false_or]
    | some value =>
      rw [List.filterMap_cons_some (by rw [hvalue]; rfl), List.foldl_cons, ih, Dict.get?_insert]
      by_cases hname : key = name
      · subst hname
        rw [if_pos rfl, if_pos List.mem_cons_self, hvalue]
        split <;> rfl
      · simp only [if_neg (Ne.symm hname), List.mem_cons, hname, false_or]

/-- **The values under given names**: under each of them that has one its value, no matter in which
order and how often the names are given. -/
theorem get?_valuesNamed (r : Record) (names : List String) (unmask : Bool) (key : String) :
    (valuesNamed r names unmask).get? key =
      if key ∈ names then valueNamed? r key unmask else none := by
  rw [valuesNamed, Dict.ofList, get?_foldl_insert, Dict.get?_empty, Option.or_none]

end VaultLocator.Extraction
