import VaultLocator.Proofs.Field.Part
import VaultLocator.Proofs.Field.Rereading

/-!
# Decoding key by key

A layout declares some keys (`VaultLocator.Layout.keys`), and an object is decoded one of them after
the other: `VaultLocator.ShownValue.decode_keywise`. What is in the object under a key that is not
declared is dropped, so it is found neither in the JSON form of the decoded value nor as a part of
it; and a part is made of what the object has under its key, whatever else the object holds.

This is what makes it safe to decode a part of a field without the rest of the field
(`VaultLocator.ShownValue.part?_decode_rewrap`). On the side of the JSON form it rests on
`VaultLocator.Layout.sublist_keys_read`: the keys that are written are declared ones, in the order
in which they are declared, so none is written twice.
-/

namespace VaultLocator

namespace Layout

variable {layout : Layout} {unmask : Bool} {members : List (String × Json)}

/-- **The keys that a layout declares**, in the order in which they are written. -/
def keys (layout : Layout) : List String :=
  layout.parts.map Part.key

/-- **What is read has declared keys only**, in their order; some parts may have no value. -/
theorem sublist_keys_read (layout : Layout) (unmask : Bool) (members : List (String × Json)) :
    ((layout.read unmask members).map Prod.fst).Sublist layout.keys := by
  rw [read, keys]
  induction layout.parts with
  | nil => exact List.Sublist.refl []
  | cons part parts ih =>
    rw [List.map_cons]
    cases hvalue : part.read unmask members with
    | none =>
      rw [List.filterMap_cons_none (by rw [hvalue]; rfl)]
      exact ih.cons part.key
    | some value =>
      rw [List.filterMap_cons_some (by rw [hvalue]; rfl), List.map_cons]
      exact ih.cons_cons part.key

/-- Under a key that is not declared nothing is read. -/
theorem find?_read_of_notMem {key : String} (h : key ∉ layout.keys) :
    Dict.find? key (layout.read unmask members) = none := by
  refine Dict.find?_eq_none_of_forall_ne fun entry hentry heq => h ?_
  have hkey : entry.1 ∈ layout.keys :=
    (layout.sublist_keys_read unmask members).subset (List.mem_map_of_mem hentry)
  exact heq ▸ hkey

end Layout

namespace ShownValue

section Elements

variable {fieldType : String} {layout : Layout} {label : Option String} {unmask : Bool}
  {values : List Json} {value : ShownValue}

/-- **What a decoded value is read from**: the objects among the raw values, all of them for a list
and the first one otherwise. Its elements are those objects, each read by the layout. -/
theorem exists_objects_of_decode (h : Shape.ofType fieldType = .structured layout)
    (hdecode : decode fieldType label unmask values = .ok value) :
    ∃ objects, objects ≠ [] ∧ objects <+: objectsOf values ∧
      value.elements = objects.map fun members => .obj (layout.read unmask members) := by
  cases hlist : layout.isList with
  | true =>
    obtain ⟨hobjects, rfl⟩ := (decode_eq_ok_iff_of_list h hlist).mp hdecode
    exact ⟨objectsOf values, hobjects, List.prefix_rfl, List.map_map⟩
  | false =>
    obtain ⟨members, rest, rfl, rfl⟩ := (decode_eq_ok_iff_of_object h hlist).mp hdecode
    exact ⟨[members], List.cons_ne_nil _ _, ⟨objectsOf rest, rfl⟩, rfl⟩

/-- **The elements of a decoded value** are objects, each read by the layout from one of the raw
values, and there is at least one. -/
theorem elements_of_decode (h : Shape.ofType fieldType = .structured layout)
    (hdecode : decode fieldType label unmask values = .ok value) :
    value.elements ≠ [] ∧ ∀ element ∈ value.elements,
      ∃ members, Json.obj members ∈ values ∧ element = .obj (layout.read unmask members) := by
  obtain ⟨objects, hne, hobjects, helements⟩ := exists_objects_of_decode h hdecode
  rw [helements]
  refine ⟨fun hnil => hne (List.map_eq_nil_iff.mp hnil), fun element hmem => ?_⟩
  obtain ⟨members, hmembers, rfl⟩ := List.mem_map.mp hmem
  exact ⟨members, mem_objectsOf_iff.mp (hobjects.subset hmembers), rfl⟩

/-- An element of a decoded value is read from the object that has its place among the raw
objects. -/
theorem getElem?_elements_of_decode (h : Shape.ofType fieldType = .structured layout)
    (hdecode : decode fieldType label unmask values = .ok value) {i : Nat}
    {members : List (String × Json)} {element : Json}
    (hmembers : (objectsOf values)[i]? = some members)
    (helement : value.elements[i]? = some element) :
    element = .obj (layout.read unmask members) := by
  obtain ⟨objects, -, hobjects, helements⟩ := exists_objects_of_decode h hdecode
  rw [helements, List.getElem?_map] at helement
  obtain ⟨object, hobject, rfl⟩ := Option.map_eq_some_iff.mp helement
  obtain ⟨hi, rfl⟩ := List.getElem?_eq_some_iff.mp hobject
  have hsame := List.prefix_iff_getElem?.mp hobjects i hi
  rw [hmembers] at hsame
  rw [Option.some.inj hsame]

end Elements

/-- **Decoding works key by key**, for every type with a layout, every label and every object, be it
alone or followed by other values, masked or in clear. It succeeds, and of the decoded value

* the JSON form of every element is an object with declared keys only, each at most once;
* the part under a key that is not declared is missing;
* the part under a declared key is what its reading makes of the member under that key, as far as it
  may be shown;
* the part under any key is that of every other object that has the same under the key, or has
  nothing under it either. -/
theorem decode_keywise {fieldType : String} {layout : Layout}
    (h : Shape.ofType fieldType = .structured layout) (label : Option String) (unmask : Bool)
    (members : List (String × Json)) (rest : List Json) :
    ∃ value, decode fieldType label unmask (.obj members :: rest) = .ok value ∧
      (value.elements ≠ [] ∧ ∀ element ∈ value.elements, ∃ entry, element = .obj entry ∧
        (entry.map Prod.fst).Sublist layout.keys ∧ (entry.map Prod.fst).Nodup) ∧
      (∀ key, key ∉ layout.keys → value.part? key = none) ∧
      (∀ part ∈ layout.parts, value.part? part.key =
        ((part.reading.read (Dict.find? part.key members)).map (part.shown unmask)).bind
          ofPart?) ∧
      ∀ key label' members' rest', Dict.find? key members' = Dict.find? key members →
        ∃ value', decode fieldType label' unmask (.obj members' :: rest') = .ok value' ∧
          value'.part? key = value.part? key := by
  obtain ⟨value, hdecode, hparts⟩ := decode_obj_of_structured h label unmask members rest
  obtain ⟨hne, helements⟩ := elements_of_decode h hdecode
  refine ⟨value, hdecode, ⟨hne, fun element hmem => ?_⟩, fun key hkey => ?_, fun part hpart => ?_,
    fun key label' members' rest' hsame => ?_⟩
  · obtain ⟨raw, -, rfl⟩ := helements element hmem
    have hsub := layout.sublist_keys_read unmask raw
    exact ⟨_, rfl, hsub, hsub.nodup layout.nodup_keys⟩
  · rw [hparts, Layout.find?_read_of_notMem hkey, Option.bind_none]
  · rw [hparts, Layout.find?_read hpart, Part.read_eq]
  · obtain ⟨value', hdecode', hparts'⟩ :=
      decode_obj_of_structured h label' unmask members' rest'
    refine ⟨value', hdecode', ?_⟩
    rw [hparts, hparts', Layout.find?_read_congr hsame]

/-- A passkey is a list, its private key is replaced whole, its counter is passed on as it is, and
where it comes from is no part of it. The counter of another passkey, which has no private key and
is followed by another value, is the same. -/
theorem decode_keywise_passkey :
    let count : Json := .num (.int 7)
    let members : List (String × Json) :=
      [("origin", .str "https://login.example"), ("privateKey", .obj [("d", .str "k1")]),
        ("signCount", count)]
    let members' : List (String × Json) := [("signCount", count), ("username", .str "ada")]
    Shape.ofType "passkey" = .structured .passkey ∧
      ∃ value, decode "passkey" none false [.obj members] = .ok value ∧
        value.elements ≠ [] ∧ "origin" ∉ Layout.passkey.keys ∧ value.part? "origin" = none ∧
        value.part? "privateKey" = some (.text "[REDACTED]") ∧
        Dict.find? "signCount" members' = Dict.find? "signCount" members ∧
        ∃ value', decode "passkey" none false [.obj members', .null] = .ok value' ∧
          value'.part? "signCount" = value.part? "signCount" := by
  intro count members members'
  have hshape : Shape.ofType "passkey" = .structured .passkey := rfl
  have horigin : "origin" ∉ Layout.passkey.keys := by decide
  obtain ⟨value, hdecode, ⟨hne, -⟩, hundeclared, hdeclared, hframe⟩ :=
    decode_keywise hshape none false members []
  refine ⟨hshape, value, hdecode, hne, horigin, hundeclared _ horigin, ?_, rfl,
    hframe "signCount" none members' [.null] rfl⟩
  exact hdeclared ⟨"privateKey", .raw, .redacted⟩ (by decide)

end ShownValue

end VaultLocator
