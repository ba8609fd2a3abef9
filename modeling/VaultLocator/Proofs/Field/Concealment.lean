import Mathlib.Data.List.Basic
import VaultLocator.Proofs.Field.Decoding

/-!
# What is concealed of a value

Which parts of structured values are secret is said here once more, by their keys and apart from
the table by which the decoder works: `VaultLocator.Layout.maskedKeys` are shown as masks, and of
`VaultLocator.Layout.redactedKeys` it is only shown that they are there. With them
`VaultLocator.ShownValue.concealed` turns a clear value into one for someone who may not see
secrets.

Decoding without the right to see secrets is decoding in clear and concealing the result
(`VaultLocator.ShownValue.decode_false`): it succeeds on the same values, fails with the same
errors, and hides nothing else. Concealing leaves every part in place
(`VaultLocator.ShownValue.isSome_part?_concealed`), since no part of a decoded value is null.
-/

namespace VaultLocator

/-! ### The secret parts -/

namespace Layout

/-- The keys of the parts that are masked. -/
def maskedKeys : Layout → List String
  | .paymentCard => ["cardNumber", "cardSecurityCode"]
  | .bankAccount => ["routingNumber", "accountNumber"]
  | .keyPair => ["privateKey"]
  | .securityQuestion => ["answer"]
  | .script => ["command"]
  | .appFiller => ["macroSequence"]
  | _ => []

/-- The keys of the parts that are replaced whole. -/
def redactedKeys : Layout → List String
  | .passkey => ["privateKey"]
  | _ => []

/-- The secrecy of a part is told by its key. -/
theorem secrecy_of_mem_parts {layout : Layout} {part : Part} (h : part ∈ layout.parts) :
    part.secrecy = if part.key ∈ layout.maskedKeys then .masked
      else if part.key ∈ layout.redactedKeys then .redacted else .clear := by
  revert part
  cases layout <;> decide

/-- What is masked is read as a text, so it can be. -/
theorem reading_of_masked {layout : Layout} {part : Part} (h : part ∈ layout.parts)
    (hkey : part.key ∈ layout.maskedKeys) : part.reading = .text := by
  revert part
  cases layout <;> decide

/-- A member of a decoded object as it is shown to someone who may not see secrets. Whatever
stands under a masked key is shown as the mask of a text. -/
def conceal (layout : Layout) (member : String × Json) : String × Json :=
  if member.1 ∈ layout.maskedKeys then
    (member.1, .str (Secret.mask (member.2.coerceText?.getD "")))
  else if member.1 ∈ layout.redactedKeys then
    (member.1, .str Secret.redacted)
  else
    member

theorem conceal_fst (layout : Layout) (member : String × Json) :
    (layout.conceal member).1 = member.1 := by
  rw [conceal]
  split
  · rfl
  · split <;> rfl

theorem conceal_ne_null {layout : Layout} {member : String × Json} (h : member.2 ≠ .null) :
    (layout.conceal member).2 ≠ .null := by
  rw [conceal]
  split
  · exact Json.noConfusion
  · split
    · exact Json.noConfusion
    · exact h

end Layout

/-! ### Objects that were read -/

/-- Nothing is ever read as null. -/
theorem Reading.ne_null_of_read {reading : Reading} {found : Option Json} {value : Json}
    (h : reading.read found = some value) : value ≠ .null := by
  cases reading with
  | text =>
    obtain ⟨s, -, rfl⟩ := Option.map_eq_some_iff.mp h
    exact Json.noConfusion
  | texts =>
    cases h
    exact Json.noConfusion
  | items =>
    cases h
    exact Json.noConfusion
  | raw =>
    cases found with
    | none => cases h
    | some raw =>
      cases raw with
      | null => cases h
      | _ =>
        cases h
        exact Json.noConfusion

/-- A part is there or not whether it is shown in clear or not, and if it is, it is concealed. -/
theorem Part.read_false {layout : Layout} {part : Part} (h : part ∈ layout.parts)
    (members : List (String × Json)) :
    (part.read false members).map (fun value => (part.key, value)) =
      ((part.read true members).map fun value => (part.key, value)).map layout.conceal := by
  rw [Part.read, Part.read]
  cases hvalue : part.reading.read (Dict.find? part.key members) with
  | none => rfl
  | some value =>
    simp only [Option.map_some, Bool.false_eq_true, if_false, if_true, Layout.conceal,
      Option.some.injEq]
    rw [Layout.secrecy_of_mem_parts h]
    by_cases hmasked : part.key ∈ layout.maskedKeys
    · rw [Layout.reading_of_masked h hmasked] at hvalue
      obtain ⟨s, -, rfl⟩ := Option.map_eq_some_iff.mp hvalue
      rw [if_pos hmasked, if_pos hmasked]
      rfl
    · rw [if_neg hmasked, if_neg hmasked]
      by_cases hredacted : part.key ∈ layout.redactedKeys
      · rw [if_pos hredacted, if_pos hredacted]
        rfl
      · rw [if_neg hredacted, if_neg hredacted]
        rfl

namespace Layout

/-- **Reading an object without the right to see secrets** is reading it in clear and concealing
its members. -/
theorem read_false (layout : Layout) (members : List (String × Json)) :
    layout.read false members = (layout.read true members).map layout.conceal := by
  rw [read, read, List.map_filterMap]
  exact List.filterMap_congr fun part hpart => Part.read_false hpart members

/-- No member of an object that was read in clear is null. -/
theorem ne_null_of_mem_read {layout : Layout} {members : List (String × Json)}
    {member : String × Json} (h : member ∈ layout.read true members) : member.2 ≠ .null := by
  rw [read, List.mem_filterMap] at h
  obtain ⟨part, -, h⟩ := h
  obtain ⟨value, hvalue, rfl⟩ := Option.map_eq_some_iff.mp h
  obtain ⟨value', hread, rfl⟩ := Option.map_eq_some_iff.mp hvalue
  exact Reading.ne_null_of_read hread

end Layout

/-! ### Values -/

namespace ShownValue

/-- A clear value of a field as it is shown to someone who may not see secrets: a text is masked if
the type or the label of the field is sensitive, and the members of objects are concealed. -/
def concealed (fieldType : String) (label : Option String) : ShownValue → ShownValue
  | .text s => .text (if isSecret fieldType label then Secret.mask s else s)
  | .entry layout members => .entry layout (members.map layout.conceal)
  | .entries layout list => .entries layout (list.map (List.map layout.conceal))
  | value => value

theorem readObject?_false (layout : Layout) (value : Json) :
    readObject? layout false value =
      (readObject? layout true value).map (List.map layout.conceal) := by
  cases value with
  | obj members => exact congrArg some (layout.read_false members)
  | _ => rfl

theorem decodeStructured?_false (layout : Layout) (values : List Json) (first : Json)
    (fieldType : String) (label : Option String) :
    decodeStructured? layout false values first =
      (decodeStructured? layout true values first).map (concealed fieldType label) := by
  have hlist : values.filterMap (readObject? layout false) =
      (values.filterMap (readObject? layout true)).map (List.map layout.conceal) := by
    rw [List.map_filterMap]
    exact List.filterMap_congr fun value _ => readObject?_false layout value
  rw [decodeStructured?, decodeStructured?, hlist, readObject?_false]
  cases layout.isList with
  | true =>
    cases values.filterMap (readObject? layout true) with
    | nil => rfl
    | cons entry rest => rfl
  | false =>
    cases readObject? layout true first with
    | none => rfl
    | some members => rfl

theorem decodeShaped?_false (fieldType : String) (label : Option String) (values : List Json)
    (first : Json) :
    decodeShaped? fieldType label false values first =
      (decodeShaped? fieldType label true values first).map (concealed fieldType label) := by
  simp only [decodeShaped?]
  cases Shape.ofType fieldType with
  | structured layout => exact decodeStructured?_false layout values first fieldType label
  | boolean => cases first <;> rfl
  | scalar =>
    cases first.coerceText? with
    | none => rfl
    | some text =>
      simp only [Option.map_some, concealed]
      cases isSecret fieldType label <;> rfl

/-- **Decoding without the right to see secrets** is decoding in clear and concealing the result. -/
theorem decode_false (fieldType : String) (label : Option String) (values : List Json) :
    decode fieldType label false values =
      (decode fieldType label true values).map (concealed fieldType label) := by
  cases values with
  | nil => rfl
  | cons first rest =>
    simp only [decode, decodeShaped?_false]
    cases decodeShaped? fieldType label true (first :: rest) first with
    | none => rfl
    | some value => rfl

/-! ### Parts of values -/

/-- No member of a value is null. -/
def NoNulls : ShownValue → Prop
  | .entry _ members => ∀ member ∈ members, member.2 ≠ .null
  | .entries _ list => ∀ members ∈ list, ∀ member ∈ members, member.2 ≠ .null
  | _ => True

theorem noNulls_of_decode {fieldType : String} {label : Option String} {values : List Json}
    {value : ShownValue} (h : decode fieldType label true values = .ok value) : value.NoNulls := by
  cases hshape : Shape.ofType fieldType with
  | structured layout =>
    cases hlist : layout.isList with
    | true =>
      obtain ⟨-, rfl⟩ := (decode_eq_ok_iff_of_list hshape hlist).mp h
      intro members hmembers
      obtain ⟨raw, -, rfl⟩ := List.mem_map.mp hmembers
      exact fun member hmember => Layout.ne_null_of_mem_read hmember
    | false =>
      obtain ⟨raw, rest, -, rfl⟩ := (decode_eq_ok_iff_of_object hshape hlist).mp h
      exact fun member hmember => Layout.ne_null_of_mem_read hmember
  | boolean =>
    obtain ⟨b, rest, -, rfl⟩ := (decode_eq_ok_iff_of_boolean hshape).mp h
    trivial
  | scalar =>
    obtain ⟨first, rest, text, -, -, rfl⟩ := (decode_eq_ok_iff_of_scalar hshape).mp h
    trivial

/-- A member that is not null is a part. -/
theorem isSome_ofPart? {value : Json} (h : value ≠ .null) : (ofPart? value).isSome = true := by
  cases value with
  | null => exact absurd rfl h
  | _ => rfl

/-- Concealing members leaves the parts in place. -/
theorem isSome_bind_find?_conceal (layout : Layout) (key : String)
    {members : List (String × Json)} (h : ∀ member ∈ members, member.2 ≠ .null) :
    ((Dict.find? key (members.map layout.conceal)).bind ofPart?).isSome =
      ((Dict.find? key members).bind ofPart?).isSome := by
  induction members with
  | nil => rfl
  | cons member rest ih =>
    rw [List.map_cons, Dict.find?, Dict.find?, Layout.conceal_fst]
    split
    · rw [Option.bind_some, Option.bind_some, isSome_ofPart? (h member List.mem_cons_self)]
      exact isSome_ofPart? (Layout.conceal_ne_null (h member List.mem_cons_self))
    · exact ih fun m hm => h m (List.mem_cons_of_mem _ hm)

/-- **Concealing leaves the parts of a decoded value in place.** -/
theorem isSome_part?_concealed {value : ShownValue} (h : value.NoNulls) (fieldType : String)
    (label : Option String) (key : String) :
    ((value.concealed fieldType label).part? key).isSome = (value.part? key).isSome := by
  cases value with
  | entry layout members => exact isSome_bind_find?_conceal layout key h
  | entries layout list =>
    cases list with
    | nil => rfl
    | cons members rest =>
      exact isSome_bind_find?_conceal layout key (h members List.mem_cons_self)
  | _ => rfl

end ShownValue

end VaultLocator
