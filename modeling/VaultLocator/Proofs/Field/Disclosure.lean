import VaultLocator.Proofs.Field.Concealment
import VaultLocator.Proofs.Result
import VaultLocator.Proofs.Secret.Mask

/-!
# What stands under sensitive names

A place in a JSON value is told by the steps that lead to it, into lists and into objects
(`VaultLocator.Json.StandsAt`). Something stands *under a secret* of the object at a place if the
object has a sensitive key and that is what it has there, or inside it
(`VaultLocator.Json.UnderSecret`). The same text may stand in the value once more, and be no secret
there, so it matters which occurrence is meant.

The parts that a layout masks or replaces whole include all those with sensitive keys
(`VaultLocator.Layout.mem_maskedKeys_or_redactedKeys`), and a part that is a text, or a list of
texts, has no keys inside.

That leaves the parts that are passed on as they are, the `VaultLocator.Layout.passedKeys`:
settings, connections and numbers, none of them with a sensitive key of its own. Whatever was
written in them is shown, with or without the right to see secrets, sensitive keys included. So
`VaultLocator.ShownValue.decode_conceals` says that what stands under a secret of an entry is a mask
or the marker of redacted parts, that other secrets are found in the parts that were passed on and
nowhere else, and that in these parts there stands, place by place, what stands there in clear.
-/

namespace VaultLocator

/-! ### Inside a JSON value -/

namespace Json

/-- A step into a value: to an item of a list, or to what an object has under a key. -/
inductive Step
  | item (index : Nat)
  | member (key : String)

/-- **What stands at a place** in a value. -/
inductive StandsAt (inner : Json) : List Step → Json → Prop
  | here : StandsAt inner [] inner
  | item {index : Nat} {path : List Step} {item : Json} {items : List Json}
      (hitem : items[index]? = some item) (h : StandsAt inner path item) :
      StandsAt inner (.item index :: path) (.arr items)
  | member {key : String} {path : List Step} {held : Json} {members : List (String × Json)}
      (hmember : (key, held) ∈ members) (h : StandsAt inner path held) :
      StandsAt inner (.member key :: path) (.obj members)

variable {inner : Json} {path : List Step}

/-- Nothing stands in a text but the text itself. -/
theorem standsAt_str_iff {s : String} :
    inner.StandsAt path (.str s) ↔ path = [] ∧ inner = .str s := by
  constructor
  · rintro ⟨⟩
    exact ⟨rfl, rfl⟩
  · rintro ⟨rfl, rfl⟩
    exact .here

theorem standsAt_item_map_iff {α : Type} {f : α → Json} {list : List α} {index : Nat} :
    inner.StandsAt (.item index :: path) (.arr (list.map f)) ↔
      ∃ a, list[index]? = some a ∧ inner.StandsAt path (f a) := by
  constructor
  · rintro (_ | ⟨hitem, h⟩)
    rw [List.getElem?_map] at hitem
    obtain ⟨a, ha, rfl⟩ := Option.map_eq_some_iff.mp hitem
    exact ⟨a, ha, h⟩
  · rintro ⟨a, ha, h⟩
    exact .item (by rw [List.getElem?_map, ha]; rfl) h

theorem standsAt_member_iff {key : String} {members : List (String × Json)} :
    inner.StandsAt (.member key :: path) (.obj members) ↔
      ∃ held, (key, held) ∈ members ∧ inner.StandsAt path held := by
  constructor
  · rintro (_ | _ | ⟨hmember, h⟩)
    exact ⟨_, hmember, h⟩
  · rintro ⟨held, hmember, h⟩
    exact .member hmember h

/-- **What stands under a secret** of the object at a place: the object has a sensitive key, and
this stands in what it has there, or is the whole of it. -/
def UnderSecret (inner : Json) (path : List Step) (value : Json) : Prop :=
  ∃ key inside, Secret.isSecretName key = true ∧
    inner.StandsAt (path ++ .member key :: inside) value

theorem not_underSecret_str {s : String} : ¬UnderSecret inner path (.str s) := by
  rintro ⟨key, inside, -, h⟩
  exact List.append_ne_nil_of_right_ne_nil path (List.cons_ne_nil _ _) (standsAt_str_iff.mp h).1

theorem not_underSecret_bool {b : Bool} : ¬UnderSecret inner path (.bool b) := by
  rintro ⟨key, inside, -, h⟩
  cases path <;> cases h

/-- A list has no keys: the object with the sensitive key is one of its items, or in one. -/
theorem exists_item_of_underSecret {items : List Json} (h : UnderSecret inner path (.arr items)) :
    ∃ index item inside, path = .item index :: inside ∧ items[index]? = some item ∧
      UnderSecret inner inside item := by
  obtain ⟨key, inside, hsecret, h⟩ := h
  cases path with
  | nil => cases h
  | cons step path =>
    rw [List.cons_append] at h
    cases h with
    | item hitem h => exact ⟨_, _, path, rfl, hitem, key, inside, hsecret, h⟩

/-- In an object the sensitive key is one of its own, or it is inside what is under some key. -/
theorem exists_member_of_underSecret {members : List (String × Json)}
    (h : UnderSecret inner path (.obj members)) :
    ∃ key held, (key, held) ∈ members ∧
      (path = [] ∧ Secret.isSecretName key = true ∧ (∃ inside, inner.StandsAt inside held) ∨
        ∃ inside, path = .member key :: inside ∧ UnderSecret inner inside held) := by
  obtain ⟨key, inside, hsecret, h⟩ := h
  cases path with
  | nil =>
    obtain ⟨held, hmember, h⟩ := standsAt_member_iff.mp h
    exact ⟨key, held, hmember, Or.inl ⟨rfl, hsecret, inside, h⟩⟩
  | cons step path =>
    rw [List.cons_append] at h
    cases h with
    | member hmember h =>
      exact ⟨_, _, hmember, Or.inr ⟨path, rfl, key, inside, hsecret, h⟩⟩

end Json

open Json (StandsAt UnderSecret)

/-! ### The parts that are passed on -/

namespace Layout

/-- The keys of the parts that are passed on as they are. -/
def passedKeys : Layout → List String
  | .pamResources => ["allowedSettings"]
  | .pamSettings => ["portForward", "connection"]
  | .pamRemoteBrowserSettings => ["connection"]
  | .passkey => ["createdDate", "signCount"]
  | .schedule => ["intervalCount"]
  | _ => []

variable {layout : Layout} {part : Part}

/-- **Parts with sensitive keys are masked or replaced.** -/
theorem mem_maskedKeys_or_redactedKeys (h : part ∈ layout.parts)
    (hsecret : Secret.isSecretName part.key = true) :
    part.key ∈ layout.maskedKeys ∨ part.key ∈ layout.redactedKeys := by
  revert part
  cases layout <;> decide +kernel

/-- Parts that are passed on are neither masked nor replaced. -/
theorem not_mem_of_mem_passedKeys {key : String} (h : key ∈ layout.passedKeys) :
    key ∉ layout.maskedKeys ∧ key ∉ layout.redactedKeys := by
  revert key
  cases layout <;> decide

/-- What is neither passed on nor replaced is read as a text or as a list of texts. -/
theorem reading_of_not_mem (h : part ∈ layout.parts) (hpassed : part.key ∉ layout.passedKeys)
    (hredacted : part.key ∉ layout.redactedKeys) :
    part.reading = .text ∨ part.reading = .texts := by
  revert part
  cases layout <;> decide

theorem conceal_of_mem_passedKeys {member : String × Json} (h : member.1 ∈ layout.passedKeys) :
    layout.conceal member = member := by
  obtain ⟨hmasked, hredacted⟩ := not_mem_of_mem_passedKeys h
  rw [conceal, if_neg hmasked, if_neg hredacted]

end Layout

/-! ### Places in a value -/

namespace Shape

/-- **The places of the entries** in a value of a shape: the value is the only entry, or they are
the items of a list. -/
inductive EntryAt : Shape → List Json.Step → Prop
  | single {layout : Layout} (hlist : layout.isList = false) : EntryAt (.structured layout) []
  | item {layout : Layout} {index : Nat} (hlist : layout.isList = true) :
      EntryAt (.structured layout) [.item index]

/-- **The places in the parts that are passed on**, those of the parts themselves included. -/
def PassedAt (shape : Shape) (path : List Json.Step) : Prop :=
  ∃ layout entry key inside, shape = .structured layout ∧ shape.EntryAt entry ∧
    key ∈ layout.passedKeys ∧ path = entry ++ .member key :: inside

/-- No entry is part of another one. -/
theorem EntryAt.not_passedAt {shape : Shape} {path : List Json.Step} (h : shape.EntryAt path) :
    ¬shape.PassedAt path := by
  rintro ⟨layout, entry, key, inside, -, hentry, -, rfl⟩
  cases hentry <;> cases h

end Shape

/-! ### Objects that were read -/

namespace Layout

variable {layout : Layout} {raw members : List (String × Json)} {key : String}
  {held inner : Json} {path : List Json.Step}

/-- A member that is shown is covered, or it is what a part was read as that is not concealed. -/
theorem isCovered_or_read_of_mem (h : (key, held) ∈ layout.read false raw) :
    (∃ s, held = .str s ∧ Secret.IsCovered s) ∨
      ∃ part ∈ layout.parts, part.key = key ∧ key ∉ layout.maskedKeys ∧
        key ∉ layout.redactedKeys ∧ part.reading.read (Dict.find? key raw) = some held := by
  rw [read_false] at h
  obtain ⟨member, hmember, hconceal⟩ := List.mem_map.mp h
  rw [read, List.mem_filterMap] at hmember
  obtain ⟨part, hpart, hmember⟩ := hmember
  obtain ⟨shown, hshown, rfl⟩ := Option.map_eq_some_iff.mp hmember
  obtain ⟨value, hvalue, rfl⟩ := Option.map_eq_some_iff.mp hshown
  rw [if_pos rfl, conceal] at hconceal
  split at hconceal
  · obtain ⟨-, rfl⟩ := Prod.mk.inj hconceal
    exact Or.inl ⟨_, rfl, Secret.isCovered_mask _⟩
  split at hconceal
  · obtain ⟨-, rfl⟩ := Prod.mk.inj hconceal
    exact Or.inl ⟨_, rfl, Secret.isCovered_redacted⟩
  · next hmasked hredacted =>
    obtain ⟨rfl, rfl⟩ := Prod.mk.inj hconceal
    exact Or.inr ⟨part, hpart, rfl, hmasked, hredacted, hvalue⟩

/-- A member with a sensitive key is covered. -/
theorem isCovered_of_mem_read (h : (key, held) ∈ layout.read false raw)
    (hsecret : Secret.isSecretName key = true) : ∃ s, held = .str s ∧ Secret.IsCovered s := by
  rcases isCovered_or_read_of_mem h with hcovered | ⟨part, hpart, rfl, hmasked, hredacted, -⟩
  · exact hcovered
  · rcases mem_maskedKeys_or_redactedKeys hpart hsecret with hmem | hmem
    · exact absurd hmem hmasked
    · exact absurd hmem hredacted

/-- A member that is not passed on has no keys inside. -/
theorem not_underSecret_of_mem_read (h : (key, held) ∈ layout.read false raw)
    (hpassed : key ∉ layout.passedKeys) : ¬UnderSecret inner path held := by
  rcases isCovered_or_read_of_mem h with ⟨s, rfl, -⟩ | ⟨part, hpart, rfl, -, hredacted, hread⟩
  · exact Json.not_underSecret_str
  · rcases reading_of_not_mem hpart hpassed hredacted with hreading | hreading
    · rw [hreading] at hread
      obtain ⟨s, -, rfl⟩ := Option.map_eq_some_iff.mp hread
      exact Json.not_underSecret_str
    · rw [hreading] at hread
      obtain rfl := Option.some.inj hread
      intro hunder
      obtain ⟨index, item, inside, -, hitem, hunder⟩ := Json.exists_item_of_underSecret hunder
      obtain ⟨found, -, hitem⟩ := List.mem_filterMap.mp (List.mem_of_getElem? hitem)
      obtain ⟨s, -, rfl⟩ := Option.map_eq_some_iff.mp hitem
      exact Json.not_underSecret_str hunder

/-- **In an entry that is shown** the secret is one of its own and covered, or it is inside a member
that is passed on. -/
theorem isCovered_or_passedAt {entry : List Json.Step}
    (hentry : (Shape.structured layout).EntryAt entry)
    (h : UnderSecret inner path (.obj (layout.read false raw))) :
    (Shape.structured layout).EntryAt (entry ++ path) ∧
        (∃ text, inner = .str text ∧ Secret.IsCovered text) ∨
      (Shape.structured layout).PassedAt (entry ++ path) := by
  obtain ⟨key, held, hmember, ⟨rfl, hsecret, inside, hstands⟩ | ⟨inside, rfl, hunder⟩⟩ :=
    Json.exists_member_of_underSecret h
  · obtain ⟨text, rfl, hcovered⟩ := isCovered_of_mem_read hmember hsecret
    rw [List.append_nil]
    exact Or.inl ⟨hentry, text, (Json.standsAt_str_iff.mp hstands).2, hcovered⟩
  · by_cases hpassed : key ∈ layout.passedKeys
    · exact Or.inr ⟨layout, entry, key, inside, rfl, hentry, hpassed, rfl⟩
    · exact absurd hunder (not_underSecret_of_mem_read hmember hpassed)

/-- Concealing leaves the members that are passed on alone. -/
theorem mem_map_conceal_iff (h : key ∈ layout.passedKeys) :
    (key, held) ∈ members.map layout.conceal ↔ (key, held) ∈ members := by
  constructor
  · intro hmem
    obtain ⟨member, hmember, hconceal⟩ := List.mem_map.mp hmem
    have hkey : member.1 = key := by rw [← layout.conceal_fst member, hconceal]
    rw [conceal_of_mem_passedKeys (hkey ▸ h)] at hconceal
    rwa [← hconceal]
  · intro hmem
    exact List.mem_map.mpr ⟨_, hmem, conceal_of_mem_passedKeys h⟩

theorem standsAt_map_conceal_iff (h : key ∈ layout.passedKeys) :
    inner.StandsAt (.member key :: path) (.obj (members.map layout.conceal)) ↔
      inner.StandsAt (.member key :: path) (.obj members) := by
  simp only [Json.standsAt_member_iff, mem_map_conceal_iff h]

end Layout

/-! ### Values -/

namespace ShownValue

variable {fieldType : String} {label : Option String} {values : List Json} {value : ShownValue}
  {inner : Json} {path : List Json.Step}

/-- **What stands under a secret in a decoded value** is covered, the secret being one of an entry,
or it stands in a part that is passed on. -/
theorem isCovered_or_passedAt (h : decode fieldType label false values = .ok value)
    (hunder : UnderSecret inner path value.toJson) :
    (Shape.ofType fieldType).EntryAt path ∧
        (∃ text, inner = .str text ∧ Secret.IsCovered text) ∨
      (Shape.ofType fieldType).PassedAt path := by
  cases hshape : Shape.ofType fieldType with
  | structured layout =>
    cases hlist : layout.isList with
    | true =>
      obtain ⟨-, rfl⟩ := (decode_eq_ok_iff_of_list hshape hlist).mp h
      obtain ⟨index, item, inside, rfl, hitem, hunder⟩ := Json.exists_item_of_underSecret hunder
      obtain ⟨members, hmembers, rfl⟩ := List.mem_map.mp (List.mem_of_getElem? hitem)
      obtain ⟨raw, -, rfl⟩ := List.mem_map.mp hmembers
      exact Layout.isCovered_or_passedAt (.item hlist) hunder
    | false =>
      obtain ⟨raw, rest, -, rfl⟩ := (decode_eq_ok_iff_of_object hshape hlist).mp h
      exact Layout.isCovered_or_passedAt (.single hlist) hunder
  | boolean =>
    obtain ⟨b, rest, -, rfl⟩ := (decode_eq_ok_iff_of_boolean hshape).mp h
    exact absurd hunder Json.not_underSecret_bool
  | scalar =>
    obtain ⟨first, rest, s, -, -, rfl⟩ := (decode_eq_ok_iff_of_scalar hshape).mp h
    exact absurd hunder Json.not_underSecret_str

/-- **What is passed on is shown in clear**: concealing a value changes nothing there. -/
theorem standsAt_concealed_iff (h : decode fieldType label true values = .ok value)
    (hpassed : (Shape.ofType fieldType).PassedAt path) :
    inner.StandsAt path (value.concealed fieldType label).toJson ↔
      inner.StandsAt path value.toJson := by
  obtain ⟨layout, entry, key, inside, hshape, hentry, hkey, rfl⟩ := hpassed
  rw [hshape] at hentry
  cases hentry with
  | single hlist =>
    obtain ⟨raw, rest, -, rfl⟩ := (decode_eq_ok_iff_of_object hshape hlist).mp h
    exact Layout.standsAt_map_conceal_iff hkey
  | item hlist =>
    obtain ⟨-, rfl⟩ := (decode_eq_ok_iff_of_list hshape hlist).mp h
    simp only [concealed, toJson, List.map_map, List.cons_append, List.nil_append,
      Json.standsAt_item_map_iff]
    exact exists_congr fun raw => and_congr_right fun _ => Layout.standsAt_map_conceal_iff hkey

/-- **What decoding conceals**, at any depth of the JSON form of a value that is decoded without the
right to see secrets. What stands under a secret is a mask, or the marker of secrets that are hidden
whole, and the secret is one of an entry; only in the parts that are passed on there may be others.
At each place in these parts there stands what stands there when the value is decoded in clear. -/
theorem decode_conceals (h : decode fieldType label false values = .ok value) :
    (∀ inner path, UnderSecret inner path value.toJson →
        (Shape.ofType fieldType).EntryAt path ∧
            (∃ text, inner = .str text ∧ Secret.IsCovered text) ∨
          (Shape.ofType fieldType).PassedAt path) ∧
      ∃ clear, decode fieldType label true values = .ok clear ∧
        ∀ (inner : Json) (path : List Json.Step), (Shape.ofType fieldType).PassedAt path →
          (inner.StandsAt path value.toJson ↔ inner.StandsAt path clear.toJson) := by
  refine ⟨fun inner path hunder => isCovered_or_passedAt h hunder, ?_⟩
  rw [decode_false] at h
  obtain ⟨clear, hclear, rfl⟩ := Result.map_eq_ok_iff.mp h
  exact ⟨clear, hclear, fun inner path hpassed => standsAt_concealed_iff hclear hpassed⟩

/-- One text twice in a passkey: as its private key, where it is not shown, and under a sensitive
key in a part that is passed on, where it is. -/
theorem decode_conceals_passkey :
    let key : Json := .str "c2VjcmV0"
    let values : List Json :=
      [.obj [("privateKey", key), ("createdDate", .obj [("password", key)])]]
    ∃ value, decode "passkey" none false values = .ok value ∧
      UnderSecret (.str Secret.redacted) [.item 0] value.toJson ∧
      ¬UnderSecret key [.item 0] value.toJson ∧
      UnderSecret key [.item 0, .member "createdDate"] value.toJson ∧
      ∃ clear, decode "passkey" none true values = .ok clear ∧
        key.StandsAt [.item 0, .member "createdDate", .member "password"] clear.toJson := by
  intro key values
  have hdecode : decode "passkey" none false values = .ok (.entries .passkey
      [[("createdDate", .obj [("password", key)]), ("privateKey", .str Secret.redacted)]]) := rfl
  have hentry : (Shape.structured .passkey).EntryAt [.item 0] := .item rfl
  have hpassed : (Shape.ofType "passkey").PassedAt
      [.item 0, .member "createdDate", .member "password"] :=
    ⟨.passkey, [.item 0], "createdDate", [.member "password"], rfl, hentry, by decide, rfl⟩
  have hstands : key.StandsAt [.item 0, .member "createdDate", .member "password"]
      (toJson (.entries .passkey
        [[("createdDate", .obj [("password", key)]), ("privateKey", .str Secret.redacted)]])) :=
    .item rfl (.member List.mem_cons_self (.member List.mem_cons_self .here))
  obtain ⟨hconceals, clear, hclear, hsame⟩ := decode_conceals hdecode
  refine ⟨_, hdecode, ⟨"privateKey", [], by decide +kernel, ?_⟩, fun hunder => ?_,
    ⟨"password", [], by decide +kernel, hstands⟩, clear, hclear, (hsame _ _ hpassed).mp hstands⟩
  · exact .item rfl (.member (List.mem_cons_of_mem _ List.mem_cons_self) .here)
  · obtain ⟨text, htext, hcovered⟩ :=
      ((hconceals _ _ hunder).resolve_right hentry.not_passedAt).2
    obtain rfl := Json.str.inj htext
    rcases hcovered with hredacted | hmask
    · exact absurd hredacted (by decide)
    · exact absurd hmask (by decide)

/-- The parts that are passed on may hold secrets of their own, and these are shown. -/
theorem not_forall_isCovered_decode :
    ¬∀ (fieldType : String) (label : Option String) (values : List Json) (value : ShownValue),
      decode fieldType label false values = .ok value →
        ∀ text path, UnderSecret (.str text) path value.toJson → Secret.IsCovered text := by
  intro h
  have hdecode : decode "pamResources" none false
      [.obj [("allowedSettings", .obj [("password", .str "hunter2hunter2")])]] =
    .ok (.entries .pamResources [[("resourceRef", .arr []),
      ("allowedSettings", .obj [("password", .str "hunter2hunter2")])]]) := rfl
  have hunder : UnderSecret (.str "hunter2hunter2") [.item 0, .member "allowedSettings"]
      (toJson (.entries .pamResources [[("resourceRef", .arr []),
        ("allowedSettings", .obj [("password", .str "hunter2hunter2")])]])) := by
    refine ⟨"password", [], by decide +kernel, .item rfl ?_⟩
    exact .member (List.mem_cons_of_mem _ List.mem_cons_self) (.member List.mem_cons_self .here)
  rcases h _ _ _ _ hdecode _ _ hunder with hredacted | hmask
  · exact absurd hredacted (by decide)
  · exact absurd hmask (by decide)

end ShownValue

end VaultLocator
