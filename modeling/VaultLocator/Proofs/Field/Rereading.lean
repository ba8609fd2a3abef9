import VaultLocator.Proofs.Field.Lookalike
import VaultLocator.Proofs.Secret.Mask

/-!
# Decoding what was decoded

The JSON form of a decoded value is again made of raw values as a vault has them
(`VaultLocator.ShownValue.elements`), so it can be decoded once more, as a value of the same field.
That changes nothing but that it may conceal: what was concealed stays so, and what was shown in
clear is concealed if secrets are not asked for the second time.

For a single part this is a matter of its reading and its secrecy. What a part is read as is read
as itself (`VaultLocator.Reading.read_read`), and concealing it leaves something of the kind that
the part is read as (`VaultLocator.Part.read_shown`). Since no two parts of a layout have the same
key, an object that was read has under the key of each part what was read for it
(`VaultLocator.Layout.find?_read`), and so it is read part by part as before
(`VaultLocator.Layout.read_read`).
-/

namespace VaultLocator

/-! ### Reading a part again -/

/-- **What was read is read as itself.** -/
theorem Reading.read_read {reading : Reading} {found : Option Json} {value : Json}
    (h : reading.read found = some value) : reading.read (some value) = some value := by
  cases reading with
  | text =>
    obtain ⟨s, -, rfl⟩ := Option.map_eq_some_iff.mp h
    rfl
  | texts =>
    cases h
    -- The items are texts already, and a text is turned into itself.
    have hitems (values : List Json) :
        (values.filterMap fun v => v.coerceText?.map Json.str).filterMap
            (fun v => v.coerceText?.map Json.str) =
          values.filterMap fun v => v.coerceText?.map Json.str := by
      rw [List.filterMap_filterMap]
      refine List.filterMap_congr fun v _ => ?_
      cases v.coerceText? <;> rfl
    exact congrArg (fun items => some (Json.arr items)) (hitems (Json.listed found))
  | items =>
    cases h
    rfl
  | raw =>
    have hne : value ≠ .null := Reading.ne_null_of_read h
    cases value with
    | null => exact absurd rfl hne
    | _ => rfl

/-- A secret that is shown a second time is masked if it is masked either time. -/
theorem Secret.shown_shown (unmask again : Bool) (secret : String) :
    shown again (shown unmask secret) = shown (unmask && again) secret := by
  cases unmask with
  | true => rfl
  | false =>
    cases again with
    | true => rfl
    | false => exact mask_mask secret

/-- Concealing twice is concealing once. -/
theorem Secrecy.veil_veil (secrecy : Secrecy) (value : Json) :
    secrecy.veil (secrecy.veil value) = secrecy.veil value := by
  cases secrecy with
  | clear => rfl
  | masked =>
    cases value with
    | str s => exact congrArg Json.str (Secret.mask_mask s)
    | _ => rfl
  | redacted => rfl

namespace Part

/-- What is shown of the value of a part. -/
def shown (part : Part) (unmask : Bool) (value : Json) : Json :=
  if unmask then value else part.secrecy.veil value

/-- What is shown a second time is concealed if it is concealed either time. -/
theorem shown_shown (part : Part) (unmask again : Bool) (value : Json) :
    part.shown again (part.shown unmask value) = part.shown (unmask && again) value := by
  cases unmask with
  | true => rfl
  | false =>
    cases again with
    | true => rfl
    | false => exact part.secrecy.veil_veil value

variable {layout : Layout} {part : Part}

/-- A masked part is read as a text, and a redacted one as it is. -/
theorem secrecy_cases (h : part ∈ layout.parts) :
    part.secrecy = .clear ∨ (part.secrecy = .masked ∧ part.reading = .text) ∨
      (part.secrecy = .redacted ∧ part.reading = .raw) := by
  have hsecrecy := Layout.secrecy_of_mem_parts h
  by_cases hmasked : part.key ∈ layout.maskedKeys
  · rw [if_pos hmasked] at hsecrecy
    exact Or.inr (Or.inl ⟨hsecrecy, Layout.reading_of_masked h hmasked⟩)
  rw [if_neg hmasked] at hsecrecy
  by_cases hredacted : part.key ∈ layout.redactedKeys
  · rw [if_pos hredacted] at hsecrecy
    exact Or.inr (Or.inr ⟨hsecrecy, Layout.reading_of_redacted h hredacted⟩)
  · rw [if_neg hredacted] at hsecrecy
    exact Or.inl hsecrecy

/-- **What is shown of a part is read as itself**, concealed or not. -/
theorem read_shown (h : part ∈ layout.parts) {found : Option Json} {value : Json}
    (hread : part.reading.read found = some value) (unmask : Bool) :
    part.reading.read (some (part.shown unmask value)) = some (part.shown unmask value) := by
  cases unmask with
  | true => exact Reading.read_read hread
  | false =>
    change part.reading.read (some (part.secrecy.veil value)) = some (part.secrecy.veil value)
    rcases secrecy_cases h with hclear | ⟨hmasked, htext⟩ | ⟨hredacted, hraw⟩
    · rw [hclear]
      exact Reading.read_read hread
    · rw [htext] at hread
      obtain ⟨s, -, rfl⟩ := Option.map_eq_some_iff.mp hread
      rw [hmasked, htext]
      rfl
    · rw [hredacted, hraw]
      rfl

theorem read_eq (part : Part) (unmask : Bool) (members : List (String × Json)) :
    part.read unmask members =
      (part.reading.read (Dict.find? part.key members)).map (part.shown unmask) :=
  rfl

/-- A part that has no value is none of those that always have one. -/
theorem read_none {reading : Reading} {found : Option Json} (h : reading.read found = none) :
    reading.read none = none := by
  cases reading with
  | text | raw => rfl
  | texts | items => cases h

/-- **A part is read again** from an object that has under its key what was shown of it. -/
theorem read_again (h : part ∈ layout.parts) {unmask : Bool}
    {members members' : List (String × Json)}
    (hfind : Dict.find? part.key members' = part.read unmask members) (again : Bool) :
    part.read again members' = part.read (unmask && again) members := by
  rw [read_eq, read_eq, hfind, read_eq]
  cases hread : part.reading.read (Dict.find? part.key members) with
  | none => rw [Option.map_none, read_none hread, Option.map_none, Option.map_none]
  | some value =>
    rw [Option.map_some, read_shown h hread, Option.map_some, Option.map_some, shown_shown]

end Part

/-! ### Reading an object again -/

/-- Of parts with different keys each is found under its key, if it has a value. -/
theorem find?_filterMap_of_nodup {parts : List Part} (hkeys : (parts.map Part.key).Nodup)
    (value? : Part → Option Json) {part : Part} (h : part ∈ parts) :
    Dict.find? part.key
        (parts.filterMap fun p => (value? p).map fun value => (p.key, value)) = value? part := by
  induction parts with
  | nil => cases h
  | cons first rest ih =>
    rw [List.map_cons, List.nodup_cons] at hkeys
    obtain ⟨hfirst, hrest⟩ := hkeys
    rcases List.mem_cons.mp h with rfl | hmem
    · cases hvalue : value? part with
      | some value =>
        rw [List.filterMap_cons_some (by rw [hvalue]; rfl), Dict.find?, if_pos rfl]
      | none =>
        -- No other part has the key.
        rw [List.filterMap_cons_none (by rw [hvalue]; rfl)]
        refine Dict.find?_eq_none_of_forall_ne fun entry hentry => ?_
        obtain ⟨p, hp, hmap⟩ := List.mem_filterMap.mp hentry
        obtain ⟨value, -, rfl⟩ := Option.map_eq_some_iff.mp hmap
        exact fun heq => hfirst (List.mem_map.mpr ⟨p, hp, heq⟩)
    · have hne : first.key ≠ part.key := fun heq => hfirst (heq ▸ List.mem_map_of_mem hmem)
      cases hvalue : value? first with
      | some value =>
        rw [List.filterMap_cons_some (by rw [hvalue]; rfl), Dict.find?, if_neg hne]
        exact ih hrest hmem
      | none =>
        rw [List.filterMap_cons_none (by rw [hvalue]; rfl)]
        exact ih hrest hmem

namespace Layout

/-- No two parts of a layout have the same key. -/
theorem nodup_keys (layout : Layout) : (layout.parts.map Part.key).Nodup := by
  cases layout <;> decide

/-- **What is found in an object that was read** under the key of a part is what was read for that
part. -/
theorem find?_read {layout : Layout} {part : Part} (h : part ∈ layout.parts) (unmask : Bool)
    (members : List (String × Json)) :
    Dict.find? part.key (layout.read unmask members) = part.read unmask members :=
  find?_filterMap_of_nodup layout.nodup_keys (fun p => p.read unmask members) h

/-- **An object that was read is read again** as the object before, concealed if it is concealed
either time. -/
theorem read_read (layout : Layout) (unmask again : Bool) (members : List (String × Json)) :
    layout.read again (layout.read unmask members) = layout.read (unmask && again) members := by
  refine List.filterMap_congr fun part hpart => ?_
  have hread := Part.read_again hpart (find?_read hpart unmask members) again
  exact congrArg (Option.map fun value => (part.key, value)) hread

end Layout

/-! ### Decoding a field again -/

namespace ShownValue

/-- **The JSON form of a value as the values of a field**: the items of a list, and otherwise the
form alone. -/
def elements (value : ShownValue) : List Json :=
  Json.listed (some value.toJson)

/-- The objects among the elements of a list are its entries. -/
theorem objectsOf_elements (layout : Layout) (list : List (List (String × Json))) :
    objectsOf (entries layout list).elements = list := by
  change (list.map Json.obj).filterMap Json.members? = list
  rw [List.filterMap_map]
  exact List.filterMap_some

section Decoding

variable {fieldType : String} {label : Option String} {unmask : Bool} {values : List Json}
  {value : ShownValue}

/-- **Decoding again**: a decoded value is decoded as the values that it was decoded from, and it is
concealed if it is concealed either time. -/
theorem decode_elements_eq (h : decode fieldType label unmask values = .ok value) (again : Bool) :
    decode fieldType label again value.elements =
      decode fieldType label (unmask && again) values := by
  cases hshape : Shape.ofType fieldType with
  | structured layout =>
    cases hlist : layout.isList with
    | true =>
      obtain ⟨hobjects, rfl⟩ := (decode_eq_ok_iff_of_list hshape hlist).mp h
      rw [(decode_eq_ok_iff_of_list hshape hlist).mpr ⟨hobjects, rfl⟩,
        decode_eq_ok_iff_of_list hshape hlist, objectsOf_elements, List.map_map]
      refine ⟨fun hnil => hobjects (List.map_eq_nil_iff.mp hnil), congrArg (entries layout) ?_⟩
      exact List.map_congr_left fun members _ => (layout.read_read unmask again members).symm
    | false =>
      obtain ⟨members, rest, rfl, rfl⟩ := (decode_eq_ok_iff_of_object hshape hlist).mp h
      rw [(decode_eq_ok_iff_of_object hshape hlist).mpr ⟨members, rest, rfl, rfl⟩,
        decode_eq_ok_iff_of_object hshape hlist]
      exact ⟨_, [], rfl, congrArg (entry layout) (layout.read_read unmask again members).symm⟩
  | boolean =>
    obtain ⟨b, rest, rfl, rfl⟩ := (decode_eq_ok_iff_of_boolean hshape).mp h
    rw [(decode_eq_ok_iff_of_boolean hshape).mpr ⟨b, rest, rfl, rfl⟩,
      decode_eq_ok_iff_of_boolean hshape]
    exact ⟨b, [], rfl, rfl⟩
  | scalar =>
    obtain ⟨first, rest, text, rfl, htext, rfl⟩ := (decode_eq_ok_iff_of_scalar hshape).mp h
    rw [(decode_eq_ok_iff_of_scalar hshape).mpr ⟨first, rest, text, rfl, htext, rfl⟩,
      decode_eq_ok_iff_of_scalar hshape]
    refine ⟨_, [], _, rfl, rfl, congrArg ShownValue.text ?_⟩
    cases isSecret fieldType label with
    | false => rfl
    | true => exact (Secret.shown_shown unmask again text).symm

/-- **Decoding is stable**, for every type, label and list of values: the JSON form of a decoded
value is decoded as the values that it was decoded from, and concealed if it is concealed either
time. So a clear value is decoded to itself, or concealed if secrets are not asked for any more;
and a concealed value is decoded to itself, whether secrets are asked for or not. -/
theorem decode_elements (h : decode fieldType label unmask values = .ok value) :
    (∀ again, decode fieldType label again value.elements =
        decode fieldType label (unmask && again) values) ∧
      (unmask = true → decode fieldType label true value.elements = .ok value ∧
        decode fieldType label false value.elements = .ok (value.concealed fieldType label)) ∧
      (unmask = false → ∀ again, decode fieldType label again value.elements = .ok value) := by
  have hagain := decode_elements_eq h
  refine ⟨hagain, ?_, ?_⟩
  · rintro rfl
    refine ⟨(hagain true).trans h, (hagain false).trans ?_⟩
    rw [Bool.and_false, decode_false, h]
    rfl
  · rintro rfl again
    rw [hagain, Bool.false_and, h]

/-- A script is shown in clear, its command made of a number, and then again without the right to
see secrets. -/
theorem decode_elements_script :
    let values : List Json :=
      [.null, .obj [("recordRef", .str "Gr1"), ("command", .num (.int 1234567))]]
    let shown : ShownValue :=
      .entries .script [[("command", .str "1234567"), ("recordRef", .arr [.str "Gr1"])]]
    decode "script" none true values = .ok shown ∧
      decode "script" none true shown.elements = .ok shown ∧
      decode "script" none false shown.elements = .ok
        (.entries .script [[("command", .str "123***567"), ("recordRef", .arr [.str "Gr1"])]]) := by
  intro values shown
  have hshown : decode "script" none true values = .ok shown := rfl
  obtain ⟨-, hclear, -⟩ := decode_elements hshown
  obtain ⟨hsame, hconcealed⟩ := hclear rfl
  exact ⟨hshown, hsame, hconcealed⟩

end Decoding

end ShownValue

end VaultLocator
