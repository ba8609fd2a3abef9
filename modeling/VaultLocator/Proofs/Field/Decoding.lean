import Mathlib.Data.List.Forall2
import VaultLocator.Field.Value

/-!
# What can be decoded

Decoding is lenient: it asks of the raw values of a field only what it cannot do without, and that
is a matter of how the type is read.

* A single object has to be one: the first value.
* A list has an entry for each of the values that is an object, and there has to be one.
* A truth value has to be one, and any other value must not be null.

The field types are sorted by these ways here once more, apart from the table of shapes:
`VaultLocator.objectTypes`, `VaultLocator.listTypes` and `VaultLocator.truthTypes`, all others being
read as texts. `VaultLocator.ShownValue.decode_outcome` says for all field types and values which
of the three outcomes there is; what an object holds has no part in it. It is put together from an
`iff` for each way of reading, such as `VaultLocator.ShownValue.decode_eq_ok_iff_of_list`, which
say what the decoded value is.
-/

namespace VaultLocator

/-- The members of an object; no other value has members. -/
def Json.members? : Json → Option (List (String × Json))
  | .obj members => some members
  | _ => none

/-- The objects among raw values, in their order. -/
def objectsOf (values : List Json) : List (List (String × Json)) :=
  values.filterMap Json.members?

theorem mem_objectsOf_iff {members : List (String × Json)} {values : List Json} :
    members ∈ objectsOf values ↔ Json.obj members ∈ values := by
  constructor
  · intro h
    obtain ⟨value, hvalue, hobject⟩ := List.mem_filterMap.mp h
    cases value with
    | obj raw =>
      cases hobject
      exact hvalue
    | _ => cases hobject
  · exact fun h => List.mem_filterMap.mpr ⟨.obj members, h, rfl⟩

theorem objectsOf_ne_nil_iff {values : List Json} :
    objectsOf values ≠ [] ↔ ∃ members, Json.obj members ∈ values := by
  constructor
  · intro h
    obtain ⟨members, hmembers⟩ := List.exists_mem_of_ne_nil _ h
    exact ⟨members, mem_objectsOf_iff.mp hmembers⟩
  · rintro ⟨members, hmem⟩
    exact List.ne_nil_of_mem (mem_objectsOf_iff.mpr hmem)

/-! ### The types by the way in which they are read -/

/-- The field types that are read as a single object. -/
def objectTypes : List String :=
  ["paymentCard", "bankCard", "address", "phone", "bankAccount", "keyPair", "host", "pamHostname",
    "name", "securityQuestion", "pamSettings", "pamRemoteBrowserSettings"]

/-- The field types that are read as a list of objects. -/
def listTypes : List String :=
  ["pamResources", "script", "passkey", "appFiller", "schedule"]

/-- The field types that are read as a truth value. -/
def truthTypes : List String :=
  ["checkbox", "isSSIDHidden"]

namespace Shape

theorem ofType_of_mem_objectTypes {fieldType : String} (h : fieldType ∈ objectTypes) :
    ∃ layout, ofType fieldType = .structured layout ∧ layout.isList = false := by
  simp only [objectTypes, List.mem_cons, List.not_mem_nil, or_false] at h
  rcases h with rfl | rfl | rfl | rfl | rfl | rfl | rfl | rfl | rfl | rfl | rfl | rfl <;>
    exact ⟨_, rfl, rfl⟩

theorem ofType_of_mem_listTypes {fieldType : String} (h : fieldType ∈ listTypes) :
    ∃ layout, ofType fieldType = .structured layout ∧ layout.isList = true := by
  simp only [listTypes, List.mem_cons, List.not_mem_nil, or_false] at h
  rcases h with rfl | rfl | rfl | rfl | rfl <;> exact ⟨_, rfl, rfl⟩

theorem ofType_of_mem_truthTypes {fieldType : String} (h : fieldType ∈ truthTypes) :
    ofType fieldType = .boolean := by
  simp only [truthTypes, List.mem_cons, List.not_mem_nil, or_false] at h
  rcases h with rfl | rfl <;> rfl

/-- The table of shapes lists no other types. -/
theorem ofType_of_not_mem {fieldType : String} (hobject : fieldType ∉ objectTypes)
    (hlist : fieldType ∉ listTypes) (htruth : fieldType ∉ truthTypes) :
    ofType fieldType = .scalar := by
  have hkeys : ∀ entry ∈ table, entry.1 ∈ objectTypes ++ listTypes ++ truthTypes := by decide
  have hnone : table.lookup fieldType = none := by
    rw [List.lookup_eq_none_iff]
    intro entry hentry
    rw [bne_iff_ne]
    rintro rfl
    have hmem := hkeys entry hentry
    rw [List.mem_append, List.mem_append] at hmem
    rcases hmem with (hmem | hmem) | hmem
    · exact hobject hmem
    · exact hlist hmem
    · exact htruth hmem
  rw [ofType, hnone]
  rfl

end Shape

namespace ShownValue

section Decoding

variable {fieldType : String} {label : Option String} {unmask : Bool} {values : List Json}
  {value : ShownValue} {layout : Layout}

/-! ### The outcomes of decoding -/

/-- Values are decoded by the shape of their type, the first of them being given apart. -/
theorem decode_eq_ok_iff : decode fieldType label unmask values = .ok value ↔
    ∃ first rest, values = first :: rest ∧
      decodeShaped? fieldType label unmask values first = some value := by
  cases values with
  | nil => simp [decode]
  | cons first rest =>
    rw [decode]
    cases hshaped : decodeShaped? fieldType label unmask (first :: rest) first with
    | none => simp [hshaped]
    | some decoded => simp [hshaped]

/-- Without values there is no field. -/
theorem decode_eq_fieldNotFound_iff {what : String} :
    decode fieldType label unmask values = .error (.fieldNotFound what) ↔
      values = [] ∧ what = fieldType := by
  cases values with
  | nil => simp [decode, eq_comm]
  | cons first rest =>
    rw [decode]
    cases decodeShaped? fieldType label unmask (first :: rest) first with
    | none => simp
    | some decoded => simp

/-- If there are values but none is decoded, they have not the shape of the type. -/
theorem decode_eq_unsupportedShape_iff :
    decode fieldType label unmask values = .error (.unsupportedShape fieldType) ↔
      values ≠ [] ∧ ¬∃ value, decode fieldType label unmask values = .ok value := by
  cases values with
  | nil => simp [decode]
  | cons first rest =>
    rw [decode]
    cases decodeShaped? fieldType label unmask (first :: rest) first with
    | none => simp
    | some decoded => simp

/-! ### Decoded values, by the way in which the type is read -/

theorem decode_eq_ok_iff_of_scalar (h : Shape.ofType fieldType = .scalar) :
    decode fieldType label unmask values = .ok value ↔ ∃ first rest text,
      values = first :: rest ∧ first.coerceText? = some text ∧
        value = .text (if isSecret fieldType label then Secret.shown unmask text else text) := by
  simp only [decode_eq_ok_iff, decodeShaped?, h, Option.map_eq_some_iff]
  constructor
  · rintro ⟨first, rest, hvalues, text, htext, rfl⟩
    exact ⟨first, rest, text, hvalues, htext, rfl⟩
  · rintro ⟨first, rest, text, hvalues, htext, rfl⟩
    exact ⟨first, rest, hvalues, text, htext, rfl⟩

theorem decode_eq_ok_iff_of_boolean (h : Shape.ofType fieldType = .boolean) :
    decode fieldType label unmask values = .ok value ↔ ∃ b rest,
      values = .bool b :: rest ∧ value = .bool b := by
  simp only [decode_eq_ok_iff, decodeShaped?, h]
  constructor
  · rintro ⟨first, rest, hvalues, hbool⟩
    cases first with
    | bool b => exact ⟨b, rest, hvalues, (Option.some.inj hbool).symm⟩
    | _ => cases hbool
  · rintro ⟨b, rest, hvalues, rfl⟩
    exact ⟨.bool b, rest, hvalues, rfl⟩

theorem readObject?_eq_some_iff {first : Json} {members : List (String × Json)} :
    readObject? layout unmask first = some members ↔
      ∃ raw, first = .obj raw ∧ members = layout.read unmask raw := by
  cases first with
  | obj raw => simp [readObject?, eq_comm]
  | _ => simp [readObject?]

theorem decode_eq_ok_iff_of_object (h : Shape.ofType fieldType = .structured layout)
    (hlist : layout.isList = false) :
    decode fieldType label unmask values = .ok value ↔ ∃ members rest,
      values = .obj members :: rest ∧ value = .entry layout (layout.read unmask members) := by
  simp only [decode_eq_ok_iff, decodeShaped?, h, decodeStructured?, hlist, Bool.false_eq_true,
    if_false, Option.map_eq_some_iff, readObject?_eq_some_iff]
  constructor
  · rintro ⟨_, rest, hvalues, _, ⟨members, rfl, rfl⟩, rfl⟩
    exact ⟨members, rest, hvalues, rfl⟩
  · rintro ⟨members, rest, hvalues, rfl⟩
    exact ⟨_, rest, hvalues, _, ⟨members, rfl, rfl⟩, rfl⟩

theorem filterMap_readObject? :
    values.filterMap (readObject? layout unmask) =
      (objectsOf values).map (layout.read unmask) := by
  rw [objectsOf, List.map_filterMap]
  refine congrFun (congrArg List.filterMap (funext fun first => ?_)) values
  cases first <;> rfl

/-- **A list has an entry for each object**, in their order, whatever else there is. -/
theorem decode_eq_ok_iff_of_list (h : Shape.ofType fieldType = .structured layout)
    (hlist : layout.isList = true) :
    decode fieldType label unmask values = .ok value ↔ objectsOf values ≠ [] ∧
      value = .entries layout ((objectsOf values).map (layout.read unmask)) := by
  simp only [decode_eq_ok_iff, decodeShaped?, h, decodeStructured?, hlist, if_true,
    filterMap_readObject?]
  cases hobjects : objectsOf values with
  | nil => simp
  | cons members rest =>
    constructor
    · rintro ⟨_, _, -, hvalue⟩
      exact ⟨List.cons_ne_nil _ _, (Option.some.inj hvalue).symm⟩
    · rintro ⟨-, rfl⟩
      cases values with
      | nil => cases hobjects
      | cons first others => exact ⟨first, others, rfl, rfl⟩

/-! ### Which values can be decoded -/

/-- Whether raw values can be read as those of a field of a type. -/
def Fits (fieldType : String) (values : List Json) : Prop :=
  if fieldType ∈ objectTypes then
    ∃ members rest, values = .obj members :: rest
  else if fieldType ∈ listTypes then
    ∃ members, Json.obj members ∈ values
  else if fieldType ∈ truthTypes then
    ∃ b rest, values = .bool b :: rest
  else
    ∃ first rest, values = first :: rest ∧ first ≠ .null

/-- Every value but null can be turned into a text. -/
theorem exists_coerceText?_iff {first : Json} :
    (∃ text, first.coerceText? = some text) ↔ first ≠ .null := by
  cases first with
  | null => simp [Json.coerceText?]
  | bool b => cases b <;> simp [Json.coerceText?]
  | num n => cases n <;> simp [Json.coerceText?]
  | _ => simp [Json.coerceText?]

/-- **What can be decoded**: what fits the type. -/
theorem exists_decode_eq_ok_iff :
    (∃ value, decode fieldType label unmask values = .ok value) ↔ Fits fieldType values := by
  rw [Fits]
  split
  · next hobject =>
    obtain ⟨layout, hshape, hlist⟩ := Shape.ofType_of_mem_objectTypes hobject
    simp only [decode_eq_ok_iff_of_object hshape hlist]
    constructor
    · rintro ⟨_, members, rest, hvalues, -⟩
      exact ⟨members, rest, hvalues⟩
    · rintro ⟨members, rest, hvalues⟩
      exact ⟨_, members, rest, hvalues, rfl⟩
  split
  · next hlists =>
    obtain ⟨layout, hshape, hlist⟩ := Shape.ofType_of_mem_listTypes hlists
    simp only [decode_eq_ok_iff_of_list hshape hlist, ← objectsOf_ne_nil_iff]
    constructor
    · rintro ⟨_, hobjects, -⟩
      exact hobjects
    · intro hobjects
      exact ⟨_, hobjects, rfl⟩
  split
  · next htruth =>
    simp only [decode_eq_ok_iff_of_boolean (Shape.ofType_of_mem_truthTypes htruth)]
    constructor
    · rintro ⟨_, b, rest, hvalues, -⟩
      exact ⟨b, rest, hvalues⟩
    · rintro ⟨b, rest, hvalues⟩
      exact ⟨_, b, rest, hvalues, rfl⟩
  · next hobject hlists htruth =>
    simp only [decode_eq_ok_iff_of_scalar (Shape.ofType_of_not_mem hobject hlists htruth),
      ← exists_coerceText?_iff]
    constructor
    · rintro ⟨_, first, rest, text, hvalues, htext, -⟩
      exact ⟨first, rest, hvalues, text, htext⟩
    · rintro ⟨first, rest, hvalues, text, htext⟩
      exact ⟨_, first, rest, text, hvalues, htext, rfl⟩

end Decoding

/-- **The outcome of decoding**, for every type, label and list of values, masked or in clear.
Without values there is no field; otherwise they are decoded if they fit the type, and if not they
have not its shape. A list has an entry for each object in it and for nothing else, in the same
order, and each entry is what decoding that object alone gives. -/
theorem decode_outcome (fieldType : String) (label : Option String) (unmask : Bool)
    (values : List Json) :
    (decode fieldType label unmask values = .error (.fieldNotFound fieldType) ↔ values = []) ∧
      ((∃ value, decode fieldType label unmask values = .ok value) ↔ Fits fieldType values) ∧
      (decode fieldType label unmask values = .error (.unsupportedShape fieldType) ↔
        values ≠ [] ∧ ¬Fits fieldType values) ∧
      ∀ value, fieldType ∈ listTypes → decode fieldType label unmask values = .ok value →
        ∃ layout list, value = .entries layout list ∧
          List.Forall₂
            (fun members entry => decode fieldType label unmask [.obj members] =
              .ok (.entries layout [entry]))
            (objectsOf values) list := by
  refine ⟨?_, exists_decode_eq_ok_iff, ?_, fun value hlists hvalue => ?_⟩
  · rw [decode_eq_fieldNotFound_iff, and_iff_left rfl]
  · rw [decode_eq_unsupportedShape_iff, exists_decode_eq_ok_iff]
  · obtain ⟨layout, hshape, hlist⟩ := Shape.ofType_of_mem_listTypes hlists
    obtain ⟨-, rfl⟩ := (decode_eq_ok_iff_of_list hshape hlist).mp hvalue
    refine ⟨layout, _, rfl, List.forall₂_map_right_iff.mpr (List.forall₂_same.mpr ?_)⟩
    intro members _
    exact (decode_eq_ok_iff_of_list hshape hlist).mpr ⟨List.cons_ne_nil members [], rfl⟩

-- Two of four values are objects, and neither has what a script should have.
example : decode "script" none false
    [.null, .obj [("command", .arr [.null])], .str "ls", .obj []] =
    .ok (.entries .script [[("command", .str "******"), ("recordRef", .arr [])],
      [("recordRef", .arr [])]]) := rfl

end ShownValue

end VaultLocator
