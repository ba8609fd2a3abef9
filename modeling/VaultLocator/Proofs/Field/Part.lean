import VaultLocator.Field.Value

/-!
# One part of a decoded value

Decoding an object looks at each of its members on its own: what is found under a key afterwards
depends only on what was found under that key before
(`VaultLocator.Layout.find?_read_congr`). So a part of a decoded field can be had from an object
that holds nothing but that one member, which is what
`VaultLocator.ShownValue.part?_decode_rewrap` says of all fields whose type has a layout, whether
they are single values or lists.

The other types have no parts: a decoded scalar is a text, which has none
(`VaultLocator.ShownValue.part?_eq_none_of_scalar`), and an object is no truth value.
-/

namespace VaultLocator

/-! ### Members of objects that were read -/

/-- **What is read under a key comes from that key alone.** -/
theorem Layout.find?_read_congr {layout : Layout} {unmask : Bool} {key : String}
    {members members' : List (String × Json)}
    (h : Dict.find? key members = Dict.find? key members') :
    Dict.find? key (layout.read unmask members) =
      Dict.find? key (layout.read unmask members') := by
  rw [Layout.read, Layout.read]
  induction layout.parts with
  | nil => rfl
  | cons part parts ih =>
    by_cases hkey : part.key = key
    · -- The part is the one under the key: it is read from the same member on both sides.
      have hread : part.read unmask members = part.read unmask members' := by
        rw [Part.read, Part.read, hkey, h]
      cases hvalue : part.read unmask members' with
      | none =>
        rw [List.filterMap_cons_none (by rw [hread, hvalue]; rfl),
          List.filterMap_cons_none (by rw [hvalue]; rfl)]
        exact ih
      | some value =>
        rw [List.filterMap_cons_some (by rw [hread, hvalue]; rfl),
          List.filterMap_cons_some (by rw [hvalue]; rfl), Dict.find?, Dict.find?, if_pos hkey,
          if_pos hkey]
    · -- Any other part adds an entry under another key, if it adds one.
      have hskip : ∀ ms : List (String × Json), Dict.find? key ((part :: parts).filterMap
          fun p => (p.read unmask ms).map fun value => (p.key, value)) =
          Dict.find? key (parts.filterMap
            fun p => (p.read unmask ms).map fun value => (p.key, value)) := by
        intro ms
        cases hvalue : part.read unmask ms with
        | none => rw [List.filterMap_cons_none (by rw [hvalue]; rfl)]
        | some value =>
          rw [List.filterMap_cons_some (by rw [hvalue]; rfl), Dict.find?, if_neg hkey]
      rw [hskip, hskip, ih]

namespace ShownValue

/-! ### Parts of values -/

theorem part?_text (text key : String) : (ShownValue.text text).part? key = none := rfl

theorem part?_entry (layout : Layout) (members : List (String × Json)) (key : String) :
    (ShownValue.entry layout members).part? key = (Dict.find? key members).bind ofPart? := rfl

/-- A part of a list is a part of its first entry. -/
theorem part?_entries_cons (layout : Layout) (members : List (String × Json))
    (rest : List (List (String × Json))) (key : String) :
    (ShownValue.entries layout (members :: rest)).part? key =
      (Dict.find? key members).bind ofPart? := rfl

/-! ### Decoding fields that begin with an object -/

/-- A field of a type with a layout whose first value is an object can be decoded, and its parts
are those that are read from that object. -/
theorem decode_obj_of_structured {fieldType : String} {layout : Layout}
    (h : Shape.ofType fieldType = .structured layout) (label : Option String) (unmask : Bool)
    (members : List (String × Json)) (rest : List Json) :
    ∃ value, decode fieldType label unmask (.obj members :: rest) = .ok value ∧
      ∀ key, value.part? key = (Dict.find? key (layout.read unmask members)).bind ofPart? := by
  have hshaped : decodeShaped? fieldType label unmask (.obj members :: rest) (.obj members) =
      decodeStructured? layout unmask (.obj members :: rest) (.obj members) := by
    simp only [decodeShaped?, h]
  have hfirst : readObject? layout unmask (.obj members) = some (layout.read unmask members) := rfl
  cases hlist : layout.isList with
  | true =>
    refine ⟨.entries layout (layout.read unmask members ::
      rest.filterMap (readObject? layout unmask)), ?_, fun key => part?_entries_cons _ _ _ _⟩
    simp only [decode, hshaped, decodeStructured?, hlist, if_true,
      List.filterMap_cons_some hfirst]
  | false =>
    refine ⟨.entry layout (layout.read unmask members), ?_, fun key => part?_entry _ _ _⟩
    simp only [decode, hshaped, decodeStructured?, hlist, hfirst]
    rfl

/-- An object is no truth value. -/
theorem decode_obj_of_boolean {fieldType : String} (h : Shape.ofType fieldType = .boolean)
    (label : Option String) (unmask : Bool) (members : List (String × Json)) (rest : List Json) :
    decode fieldType label unmask (.obj members :: rest) = .error (.unsupportedShape fieldType) := by
  simp only [decode, decodeShaped?, h]

/-- A decoded scalar has no parts. -/
theorem part?_eq_none_of_scalar {fieldType : String} (h : Shape.ofType fieldType = .scalar)
    {label : Option String} {unmask : Bool} {values : List Json} {value : ShownValue}
    (hdecode : decode fieldType label unmask values = .ok value) (key : String) :
    value.part? key = none := by
  cases values with
  | nil => cases hdecode
  | cons first rest =>
    simp only [decode, decodeShaped?, h] at hdecode
    cases htext : first.coerceText? with
    | none =>
      rw [htext] at hdecode
      cases hdecode
    | some text =>
      rw [htext] at hdecode
      cases hdecode
      exact part?_text _ _

/-- **A part of a field can be decoded on its own**: a field whose first value is an object with a
member is decoded exactly when that member alone, put back into an object, is decoded as a value
of the field; and then the part is the same. Scalar types are left out: their objects are texts. -/
theorem part?_decode_rewrap {fieldType key : String} (hshape : Shape.ofType fieldType ≠ .scalar)
    {members : List (String × Json)} {member : Json} (hmember : Dict.find? key members = some member)
    (label : Option String) (unmask : Bool) (rest : List Json) :
    (∃ error error', decode fieldType label unmask (.obj members :: rest) = .error error ∧
        decode fieldType label unmask [.obj [(key, member)]] = .error error') ∨
      ∃ value value', decode fieldType label unmask (.obj members :: rest) = .ok value ∧
        decode fieldType label unmask [.obj [(key, member)]] = .ok value' ∧
        value.part? key = value'.part? key := by
  cases h : Shape.ofType fieldType with
  | scalar => exact absurd h hshape
  | boolean =>
    exact Or.inl ⟨_, _, decode_obj_of_boolean h label unmask members rest,
      decode_obj_of_boolean h label unmask [(key, member)] []⟩
  | structured layout =>
    obtain ⟨value, hvalue, hparts⟩ := decode_obj_of_structured h label unmask members rest
    obtain ⟨value', hvalue', hparts'⟩ :=
      decode_obj_of_structured h label unmask [(key, member)] []
    refine Or.inr ⟨value, value', hvalue, hvalue', ?_⟩
    have hfind : Dict.find? key members = Dict.find? key [(key, member)] := by
      rw [hmember, Dict.find?_head (key, member)]
    rw [hparts, hparts', Layout.find?_read_congr hfind]

end ShownValue

end VaultLocator
