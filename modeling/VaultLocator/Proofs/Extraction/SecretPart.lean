import VaultLocator.Proofs.Extraction.NativeLookup
import VaultLocator.Proofs.Field.Decoding

/-!
# Secret parts of scalars

A vault that is asked for a part of a field gives the part itself. For the types that have a layout
the part is put back and decoded in its place, but a scalar has no place for it, and so
`VaultLocator.Extraction.scalarPart` does the work of the decoder once more by hand. There is one
thing that it does not do alike: the decoder turns a truth value into a text, and masks it; by hand
it stays a truth value.

`VaultLocator.Extraction.ShownAsSecret` says what is to be shown of a secret scalar. The decoder
abides by it (`VaultLocator.Extraction.shownAsSecret_decode`), and a part of a scalar is shown in
this way if and only if it is no truth value
(`VaultLocator.Extraction.secret_part_masked_iff`).
-/

namespace VaultLocator.Extraction

/-! ### What is shown of a secret scalar -/

/-- **A result shows the value of a scalar as a secret**: there is nothing to show of null, and of
every other value the mask of its text is shown. -/
structure ShownAsSecret (selector : Selector) (first : Json)
    (result : Except Error ShownValue) : Prop where
  absent : first = .null → result = .error (.fieldNotFound selector.name)
  masked : first ≠ .null →
    ∃ text, first.coerceText? = some text ∧ result = .ok (.text (Secret.mask text))

section ShownAsSecret

variable {selector : Selector} {first : Json} {text : String} {result : Except Error ShownValue}

/-- A value that has a text is not null. -/
theorem ne_null_of_coerceText? (h : first.coerceText? = some text) : first ≠ .null :=
  ShownValue.exists_coerceText?_iff.mp ⟨text, h⟩

theorem shownAsSecret_null :
    ShownAsSecret selector .null (.error (.fieldNotFound selector.name)) where
  absent _ := rfl
  masked h := absurd rfl h

theorem shownAsSecret_mask (h : first.coerceText? = some text) :
    ShownAsSecret selector first (.ok (.text (Secret.mask text))) where
  absent hnull := absurd hnull (ne_null_of_coerceText? h)
  masked _ := ⟨text, h, rfl⟩

/-- **The decoder shows a scalar as a secret** if its type or its label is sensitive. -/
theorem shownAsSecret_decode {fieldType : String} {label : Option String}
    (hscalar : Shape.ofType fieldType = .scalar)
    (hsecret : ShownValue.isSecret fieldType label = true) (selector : Selector) (first : Json)
    (rest : List Json) :
    ShownAsSecret selector first
      (orAbsent selector (ShownValue.decode fieldType label false (first :: rest))) := by
  by_cases hnull : first = .null
  · subst hnull
    have hdecode : ShownValue.decode fieldType label false (.null :: rest) =
        .error (.unsupportedShape fieldType) := by
      rw [ShownValue.decode_eq_unsupportedShape_iff]
      refine ⟨List.cons_ne_nil _ _, ?_⟩
      rintro ⟨value, hvalue⟩
      obtain ⟨first, rest, text, hvalues, htext, -⟩ :=
        (ShownValue.decode_eq_ok_iff_of_scalar hscalar).mp hvalue
      exact ne_null_of_coerceText? htext (List.cons.inj hvalues).1.symm
    rw [hdecode]
    exact shownAsSecret_null
  · obtain ⟨text, htext⟩ := ShownValue.exists_coerceText?_iff.mpr hnull
    have hdecode : ShownValue.decode fieldType label false (first :: rest) =
        .ok (.text (Secret.mask text)) := by
      rw [ShownValue.decode_eq_ok_iff_of_scalar hscalar]
      exact ⟨first, rest, text, rfl, htext, by rw [if_pos hsecret]; rfl⟩
    rw [hdecode]
    exact shownAsSecret_mask htext

end ShownAsSecret

/-! ### Parts that a vault found -/

/-- **A locator asks for a secret part of a scalar**, and a vault has found some: the type of the
field is that of a scalar, there is a first value, and the name of the part, the type or the label
of the field is sensitive. -/
structure FindsSecretPart (l : Locator) (found : FoundField) (selector : Selector)
    (property : String) (first : Json) : Prop where
  selects : l.selector? = some selector
  asks : selector.property = some property
  scalar : Shape.ofType found.fieldType = .scalar
  value : ∃ rest, found.values = first :: rest
  secret : Secret.isSecretName property = true ∨ Secret.isSecretName found.fieldType = true ∨
    ∃ label, found.label = some label ∧ Secret.isSecretName label = true

section SecretPart

variable {l : Locator} {found : FoundField} {selector : Selector} {property : String}
  {first : Json}

theorem FindsSecretPart.valueFound_eq (h : FindsSecretPart l found selector property first)
    (unmask : Bool) :
    valueFound l found unmask = scalarPart selector property found unmask first := by
  obtain ⟨rest, hvalues⟩ := h.value
  simp only [valueFound_of_selector? h.selects, h.asks, foundPart, hvalues, if_pos h.scalar]

/-- The three names that can be sensitive are those that are looked at. -/
theorem FindsSecretPart.isSecret (h : FindsSecretPart l found selector property first) :
    (Secret.isSecretName property || ShownValue.isSecret found.fieldType found.label) = true := by
  rw [ShownValue.isSecret, Bool.or_eq_true, Bool.or_eq_true, Option.any_eq_true]
  rcases h.secret with hproperty | htype | ⟨label, hlabel, hsecret⟩
  · exact Or.inl hproperty
  · exact Or.inr (Or.inl htype)
  · exact Or.inr (Or.inr ⟨label, hlabel, hsecret⟩)

/-- By hand, what is no truth value is turned into its text and masked. -/
theorem scalarPart_of_coerceText? {text : String} (htext : first.coerceText? = some text)
    (hbool : ∀ b, first ≠ .bool b)
    (hsecret : (Secret.isSecretName property ||
      ShownValue.isSecret found.fieldType found.label) = true) :
    scalarPart selector property found false first = .ok (.text (Secret.mask text)) := by
  have hshown : Secret.shown false text = Secret.mask text := rfl
  cases first with
  | null => cases htext
  | bool b => exact absurd rfl (hbool b)
  | _ => simp only [scalarPart, htext, Option.getD_some, hsecret, if_true, hshown]

/-- A truth value is never shown as a secret as long as it is one. -/
theorem not_shownAsSecret_bool (b b' : Bool) :
    ¬ShownAsSecret selector (.bool b) (.ok (.bool b')) := by
  intro h
  obtain ⟨text, -, htext⟩ := h.masked Json.noConfusion
  cases htext

/-- **A secret part of a scalar is masked if and only if it is no truth value**, for every locator
and everything that a vault may have found. A truth value is shown in clear, which the decoder does
not do: where the type or the label of the field is sensitive, all that the decoder shows of the
same values is shown as a secret. -/
theorem secret_part_masked_iff (h : FindsSecretPart l found selector property first) :
    (ShownAsSecret selector first (valueFound l found false) ↔ ∀ b, first ≠ .bool b) ∧
      (∀ b, first = .bool b → valueFound l found false = .ok (.bool b)) ∧
      (ShownValue.isSecret found.fieldType found.label = true →
        ShownAsSecret selector first (orAbsent selector
          (ShownValue.decode found.fieldType found.label false found.values))) := by
  rw [h.valueFound_eq]
  refine ⟨⟨?_, fun hbool => ?_⟩, ?_, fun hsecret => ?_⟩
  · rintro hshown b rfl
    exact not_shownAsSecret_bool b b hshown
  · by_cases hnull : first = .null
    · subst hnull
      exact shownAsSecret_null
    · obtain ⟨text, htext⟩ := ShownValue.exists_coerceText?_iff.mpr hnull
      rw [scalarPart_of_coerceText? htext hbool h.isSecret]
      exact shownAsSecret_mask htext
  · rintro b rfl
    rfl
  · obtain ⟨rest, hvalues⟩ := h.value
    rw [hvalues]
    exact shownAsSecret_decode h.scalar hsecret selector first rest

end SecretPart

/-- The place of the part "enabled" of a pin code. -/
def pinPart : Locator :=
  ⟨.title "Front Door", .customField ⟨"Door PIN", none, some "enabled"⟩⟩

/-- A number under a sensitive label is masked. -/
theorem secret_part_masked_iff_number :
    let found : FoundField := ⟨"text", some "Door PIN", [.num (.int 73912846)]⟩
    FindsSecretPart pinPart found ⟨"Door PIN", none, some "enabled"⟩ "enabled"
        (.num (.int 73912846)) ∧
      valueFound pinPart found false = .ok (.text "739***846") := by
  intro found
  have h : FindsSecretPart pinPart found ⟨"Door PIN", none, some "enabled"⟩ "enabled"
      (.num (.int 73912846)) :=
    ⟨rfl, rfl, by decide, ⟨[], rfl⟩, Or.inr (Or.inr ⟨"Door PIN", rfl, by decide⟩)⟩
  have hshown := (secret_part_masked_iff h).1.mpr nofun
  obtain ⟨text, htext, hvalue⟩ := hshown.masked Json.noConfusion
  cases htext
  exact ⟨h, hvalue⟩

/-- **Not every secret part of a scalar is masked**: a truth value under a sensitive label is shown
in clear. -/
theorem not_forall_shownAsSecret :
    ¬∀ (l : Locator) (found : FoundField) (selector : Selector) (property : String) (first : Json),
      FindsSecretPart l found selector property first →
        ShownAsSecret selector first (valueFound l found false) := by
  intro h
  have hshown := h pinPart ⟨"text", some "Door PIN", [.bool true]⟩ _ "enabled" (.bool true)
    ⟨rfl, rfl, by decide, ⟨[], rfl⟩, Or.inr (Or.inr ⟨"Door PIN", rfl, by decide⟩)⟩
  exact not_shownAsSecret_bool true true hshown

end VaultLocator.Extraction
