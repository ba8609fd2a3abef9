import Mathlib.Data.List.Forall2
import VaultLocator.Proofs.Field.Concealment

/-!
# Values that look alike

Someone who may not see secrets is shown a mask in place of a secret, and of some secrets nothing
but that they are there. Two raw values of a field *look alike* to them
(`VaultLocator.LooksAlike`) if they differ in no more than that: in secrets with the same mask, or
in the contents of what is replaced whole. The raw secrets may have different lengths and even
different JSON types, as long as the texts they are turned into have the same mask.

Main statement: `VaultLocator.ShownValue.decode_false_congr`, values that look alike are decoded to
the same value, or with the same error, when secrets are not asked for.
-/

namespace VaultLocator

/-! ### Looking alike -/

/-- There is no value; null counts as none. -/
def Missing (found : Option Json) : Prop :=
  found = none ∨ found = some .null

/-- Both values are missing, or they are turned into texts that have the same mask. -/
inductive SameMask (found found' : Option Json) : Prop
  | missing : Missing found → Missing found' → SameMask found found'
  | masked {value value' : Json} {text text' : String} : found = some value →
      found' = some value' → value.coerceText? = some text → value'.coerceText? = some text' →
      Secret.mask text = Secret.mask text' → SameMask found found'

/-- The members of two objects look alike: they are the same but for those under the secret keys of
a layout. Of the masked ones the masks are the same; of the redacted ones it is the same whether
they are there. -/
structure Layout.LookAlike (layout : Layout) (members members' : List (String × Json)) : Prop where
  clear : ∀ key, key ∉ layout.maskedKeys → key ∉ layout.redactedKeys →
    Dict.find? key members = Dict.find? key members'
  masked : ∀ key ∈ layout.maskedKeys,
    SameMask (Dict.find? key members) (Dict.find? key members')
  redacted : ∀ key ∈ layout.redactedKeys,
    (Missing (Dict.find? key members) ↔ Missing (Dict.find? key members'))

/-- **Two raw values of a field look alike** to someone who may not see secrets. -/
inductive LooksAlike (fieldType : String) (label : Option String) (value value' : Json) : Prop
  /-- They are the same. -/
  | same : value = value' → LooksAlike fieldType label value value'
  /-- They are values of a scalar type, the type or the label is sensitive, and they have the same
  mask, or both are null. -/
  | scalar : Shape.ofType fieldType = .scalar → ShownValue.isSecret fieldType label = true →
      SameMask (some value) (some value') → LooksAlike fieldType label value value'
  /-- They are objects of a type with a layout, and their members look alike. -/
  | object {layout : Layout} {members members' : List (String × Json)} :
      Shape.ofType fieldType = .structured layout → value = .obj members →
      value' = .obj members' → layout.LookAlike members members' →
      LooksAlike fieldType label value value'

/-! ### Reading what looks alike -/

/-- Of missing values no text is read. -/
theorem Missing.bind_coerceText? {found : Option Json} (h : Missing found) :
    found.bind Json.coerceText? = none := by
  rcases h with rfl | rfl <;> rfl

/-- Values with the same mask give masks that are the same. -/
theorem SameMask.map_mask {found found' : Option Json} (h : SameMask found found') :
    (found.bind Json.coerceText?).map Secret.mask =
      (found'.bind Json.coerceText?).map Secret.mask := by
  cases h with
  | missing h h' => rw [h.bind_coerceText?, h'.bind_coerceText?]
  | masked hfound hfound' htext htext' hmask =>
    rw [hfound, hfound', Option.bind_some, Option.bind_some, htext, htext', Option.map_some,
      Option.map_some, hmask]

/-- A raw part is there unless it is missing. -/
theorem Missing.read_raw_iff {found : Option Json} :
    Missing found ↔ Reading.raw.read found = none := by
  cases found with
  | none => exact iff_of_true (Or.inl rfl) rfl
  | some value =>
    cases value with
    | null => exact iff_of_true (Or.inr rfl) rfl
    | _ => simp [Missing, Reading.read]

/-- A masked text is the mask of what is read as a text. -/
theorem Reading.map_veil_text (found : Option Json) :
    (Reading.text.read found).map Secrecy.masked.veil =
      ((found.bind Json.coerceText?).map Secret.mask).map .str := by
  rw [Reading.read, Option.map_map, Option.map_map]
  rfl

theorem Part.read_false_eq (part : Part) (members : List (String × Json)) :
    part.read false members =
      (part.reading.read (Dict.find? part.key members)).map part.secrecy.veil :=
  rfl

namespace Layout

/-- What is redacted is read as it is. -/
theorem reading_of_redacted {layout : Layout} {part : Part} (h : part ∈ layout.parts)
    (hkey : part.key ∈ layout.redactedKeys) : part.reading = .raw := by
  revert part
  cases layout <;> decide

variable {layout : Layout} {members members' : List (String × Json)}

/-- A part is shown alike in objects whose members look alike. -/
theorem LookAlike.read_part (h : layout.LookAlike members members') {part : Part}
    (hpart : part ∈ layout.parts) : part.read false members = part.read false members' := by
  have hsecrecy := secrecy_of_mem_parts hpart
  rw [Part.read_false_eq, Part.read_false_eq]
  by_cases hmasked : part.key ∈ layout.maskedKeys
  · -- Only the mask of the text is left of it.
    rw [if_pos hmasked] at hsecrecy
    rw [hsecrecy, reading_of_masked hpart hmasked, Reading.map_veil_text, Reading.map_veil_text,
      (h.masked part.key hmasked).map_mask]
  rw [if_neg hmasked] at hsecrecy
  by_cases hredacted : part.key ∈ layout.redactedKeys
  · -- It is replaced whole: only whether it is there is left of it.
    rw [if_pos hredacted] at hsecrecy
    have hmissing := h.redacted part.key hredacted
    rw [Missing.read_raw_iff, Missing.read_raw_iff] at hmissing
    rw [hsecrecy, reading_of_redacted hpart hredacted]
    cases hread : Reading.raw.read (Dict.find? part.key members) with
    | none => rw [hmissing.mp hread]
    | some value =>
      cases hread' : Reading.raw.read (Dict.find? part.key members') with
      | none =>
        rw [hmissing.mpr hread'] at hread
        cases hread
      | some value' => rfl
  · rw [h.clear part.key hmasked hredacted]

/-- **Objects that look alike are read alike.** -/
theorem LookAlike.read_false (h : layout.LookAlike members members') :
    layout.read false members = layout.read false members' := by
  rw [read, read]
  exact List.filterMap_congr fun part hpart => by rw [h.read_part hpart]

end Layout

/-! ### Decoding what looks alike -/

/-- Lists that are related element by element have the same images under a function that does not
see the difference. -/
theorem map_eq_map_of_forall₂ {α β : Type} {R : α → α → Prop} {f : α → β}
    (hf : ∀ x y, R x y → f x = f y) {xs ys : List α} (h : List.Forall₂ R xs ys) :
    xs.map f = ys.map f := by
  rw [← List.forall₂_eq_eq_eq, List.forall₂_map_left_iff, List.forall₂_map_right_iff]
  exact h.imp hf

namespace ShownValue

variable {fieldType : String} {label : Option String} {first first' : Json}
  {values values' : List Json}

theorem readObject?_false_congr {layout : Layout}
    (hshape : Shape.ofType fieldType = .structured layout)
    (h : LooksAlike fieldType label first first') :
    readObject? layout false first = readObject? layout false first' := by
  cases h with
  | same h => rw [h]
  | scalar hscalar =>
    rw [hscalar] at hshape
    cases hshape
  | object hshape' hfirst hfirst' h =>
    rw [hshape'] at hshape
    cases hshape
    rw [hfirst, hfirst', readObject?, readObject?, h.read_false]

theorem decodeStructured?_false_congr {layout : Layout}
    (hshape : Shape.ofType fieldType = .structured layout)
    (hfirst : LooksAlike fieldType label first first')
    (hvalues : List.Forall₂ (LooksAlike fieldType label) values values') :
    decodeStructured? layout false values first =
      decodeStructured? layout false values' first' := by
  have hmap : values.map (readObject? layout false) = values'.map (readObject? layout false) :=
    map_eq_map_of_forall₂ (fun _ _ h => readObject?_false_congr hshape h) hvalues
  have hread : values.filterMap (readObject? layout false) =
      values'.filterMap (readObject? layout false) := by
    have hid := congrArg (List.filterMap id) hmap
    rwa [List.filterMap_map, List.filterMap_map] at hid
  rw [decodeStructured?, decodeStructured?, hread, readObject?_false_congr hshape hfirst]

theorem decodeShaped?_false_congr (hfirst : LooksAlike fieldType label first first')
    (hvalues : List.Forall₂ (LooksAlike fieldType label) values values') :
    decodeShaped? fieldType label false values first =
      decodeShaped? fieldType label false values' first' := by
  cases hshape : Shape.ofType fieldType with
  | structured layout =>
    simp only [decodeShaped?, hshape]
    exact decodeStructured?_false_congr hshape hfirst hvalues
  | boolean =>
    cases hfirst with
    | same h => simp only [decodeShaped?, hshape, h]
    | scalar hscalar =>
      rw [hscalar] at hshape
      cases hshape
    | object hobject =>
      rw [hobject] at hshape
      cases hshape
  | scalar =>
    cases hfirst with
    | same h => simp only [decodeShaped?, hshape, h]
    | scalar _ hsecret h =>
      have hmask := congrArg (Option.map ShownValue.text) h.map_mask
      simp only [Option.bind_some, Option.map_map] at hmask
      simp only [decodeShaped?, hshape, hsecret, if_true]
      exact hmask
    | object hobject =>
      rw [hobject] at hshape
      cases hshape

/-- **Values that look alike are decoded alike** when secrets are not asked for. -/
theorem decode_false_congr (h : List.Forall₂ (LooksAlike fieldType label) values values') :
    decode fieldType label false values = decode fieldType label false values' := by
  cases h with
  | nil => rfl
  | cons hfirst hrest =>
    rw [decode, decode, decodeShaped?_false_congr hfirst (.cons hfirst hrest)]

end ShownValue

end VaultLocator
