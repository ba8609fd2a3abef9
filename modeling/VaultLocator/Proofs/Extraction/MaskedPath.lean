import VaultLocator.Proofs.Extraction.Gathering
import VaultLocator.Proofs.Extraction.SecretPart
import VaultLocator.Proofs.Field.Keys
import VaultLocator.Proofs.Secret.MaskKernel

/-!
# The ways by which a mask is shown

A secret is masked in six places: when it is shown by itself, under a sensitive name, as a secret
scalar, as a masked part of an entry, as the own password of a record, and as a secret part that a
vault has found. `VaultLocator.Extraction.MaskedPath` lists them by what is stored and what is
shown, and on each of them the mask of the secret is shown
(`VaultLocator.Extraction.MaskedPath.eq_mask`). So what is known of masks is known of all of them:
no secret gets through as it is unless it has the form of a mask.

Two kinds of secrets take none of these paths. The private key of a passkey is not masked but
replaced whole, and a truth value that a vault finds as a secret part is not made a text.
-/

namespace VaultLocator

/-! ### Entries -/

/-- What a layout masks is a part that is read as a text. -/
theorem Layout.exists_part_of_mem_maskedKeys {layout : Layout} {key : String}
    (h : key ∈ layout.maskedKeys) : ∃ part ∈ layout.parts,
      part.key = key ∧ part.secrecy = .masked ∧ part.reading = .text := by
  revert key
  cases layout <;> decide

/-- **What is found under a masked key** of an object that was read without the right to see secrets
is the mask of the text that stands there. -/
theorem Layout.find?_read_of_mem_maskedKeys {layout : Layout} {key : String}
    (h : key ∈ layout.maskedKeys) (members : List (String × Json)) :
    Dict.find? key (layout.read false members) =
      (((Dict.find? key members).bind Json.coerceText?).map Secret.mask).map .str := by
  obtain ⟨part, hpart, rfl, hsecrecy, hreading⟩ := exists_part_of_mem_maskedKeys h
  rw [find?_read hpart, Part.read_false_eq, hreading, hsecrecy, Reading.map_veil_text]

namespace Extraction

/-! ### Masked paths -/

/-- **A secret takes a masked path to a text** that is shown in its place to someone who may not see
secrets. -/
inductive MaskedPath (secret : String) : String → Prop
  /-- It is shown by itself. -/
  | alone : MaskedPath secret (Secret.shown false secret)
  /-- It is shown under a sensitive name. -/
  | named {name : String} : Secret.isSecretName name = true →
      MaskedPath secret (Secret.shownUnder name false secret)
  /-- It is the text of a scalar field whose type or label is sensitive, and the field is
  decoded. -/
  | scalar {fieldType text : String} {label : Option String} {first : Json} {rest : List Json} :
      Shape.ofType fieldType = .scalar → ShownValue.isSecret fieldType label = true →
      first.coerceText? = some secret →
      ShownValue.decode fieldType label false (first :: rest) = .ok (.text text) →
      MaskedPath secret text
  /-- It is the text under a masked key of one of the objects of a field, and the field is
  decoded. -/
  | part {fieldType key text : String} {label : Option String} {layout : Layout}
      {values : List Json} {value : ShownValue} {i : Nat} {members entry : List (String × Json)} :
      Shape.ofType fieldType = .structured layout → key ∈ layout.maskedKeys →
      (objectsOf values)[i]? = some members →
      (Dict.find? key members).bind Json.coerceText? = some secret →
      ShownValue.decode fieldType label false values = .ok value →
      value.elements[i]? = some (.obj entry) → Dict.find? key entry = some (.str text) →
      MaskedPath secret text
  /-- It is the own password of a record, and the password is extracted. -/
  | password {r : Record} {text : String} : r.ownPassword? = some secret →
      valueNamed? r "password" false = some (.text text) → MaskedPath secret text
  /-- It is the text of a secret part of a scalar that a vault has found. -/
  | found {l : Locator} {found : FoundField} {selector : Selector} {property text : String}
      {first : Json} : FindsSecretPart l found selector property first →
      first.coerceText? = some secret → valueFound l found false = .ok (.text text) →
      MaskedPath secret text

variable {secret text : String}

/-- **On a masked path the mask is shown.** -/
theorem MaskedPath.eq_mask (h : MaskedPath secret text) : text = Secret.mask secret := by
  cases h with
  | alone => rfl
  | named hname =>
    rw [Secret.shownUnder, if_pos hname]
    rfl
  | scalar hscalar hsecret hfirst hdecode =>
    obtain ⟨first', rest', text', hvalues, htext', hshown⟩ :=
      (ShownValue.decode_eq_ok_iff_of_scalar hscalar).mp hdecode
    obtain ⟨rfl, rfl⟩ := List.cons.inj hvalues
    rw [hfirst] at htext'
    cases htext'
    rw [if_pos hsecret] at hshown
    cases hshown
    rfl
  | part hshape hkey hmembers hsecret hdecode helement htext =>
    have hentry := ShownValue.getElem?_elements_of_decode hshape hdecode hmembers helement
    cases hentry
    rw [Layout.find?_read_of_mem_maskedKeys hkey, hsecret] at htext
    cases htext
    rfl
  | password hown htext =>
    obtain ⟨field, rest, hfield, htype, hvalues⟩ := exists_of_ownPassword? hown
    rw [valueNamed?_eq, if_neg (by decide), fieldNamed?, hfield, Option.some_or, Option.bind_some,
      decoded?_of_password htype hvalues, Option.some_or] at htext
    cases htext
    rfl
  | @found l found selector property _ first hfinds hfirst htext =>
    rw [hfinds.valueFound_eq] at htext
    have hbool (b : Bool) : first ≠ .bool b := by
      rintro rfl
      cases htext
    rw [scalarPart_of_coerceText? hfirst hbool hfinds.isSecret] at htext
    cases htext
    rfl

/-- **What a mask reveals.** Two secrets have the same mask if and only if both have at most six
characters, or both have more and agree on the first three and on the last three. A mask is its own
mask, and masking leaves nothing alone but six asterisks and texts of nine characters with three
asterisks in the middle. On every masked path it is the mask that is shown, so such texts are the
only secrets that are shown as they are. -/
theorem mask_reveals_ends_only :
    (∀ secret other : String, Secret.mask secret = Secret.mask other ↔
      secret.length ≤ 6 ∧ other.length ≤ 6 ∨ 6 < secret.length ∧ 6 < other.length ∧
        secret.toList.take 3 = other.toList.take 3 ∧
          secret.toList.rtake 3 = other.toList.rtake 3) ∧
      (∀ secret, Secret.mask (Secret.mask secret) = Secret.mask secret) ∧
      (∀ secret, Secret.mask secret = secret ↔ Secret.HasMaskForm secret) ∧
      ∀ secret text, MaskedPath secret text →
        text = Secret.mask secret ∧ (text = secret → Secret.HasMaskForm secret) := by
  refine ⟨fun _ _ => Secret.mask_eq_mask_iff, Secret.mask_mask, fun _ => Secret.mask_eq_self_iff,
    fun secret text hpath => ⟨hpath.eq_mask, fun hsame => ?_⟩⟩
  rw [hpath.eq_mask] at hsame
  exact Secret.mask_eq_self_iff.mp hsame

/-- Two passwords with one mask, the command of the second of two scripts, which is a number, and a
pin code that has the form of a mask and so is shown as it is. -/
theorem mask_reveals_ends_only_samples :
    let values : List Json :=
      [.null, .obj [("command", .str "ls")], .obj [("command", .num (.int 12345678))]]
    let shown : ShownValue := .entries .script
      [[("command", .str "******"), ("recordRef", .arr [])],
        [("command", .str "123***678"), ("recordRef", .arr [])]]
    Secret.mask "päßwörd" = Secret.mask "päß, kein Wörd" ∧
      Secret.mask "secret" ≠ Secret.mask "secret1" ∧
      ShownValue.decode "script" none false values = .ok shown ∧
      MaskedPath "12345678" "123***678" ∧ "123***678" = Secret.mask "12345678" ∧
      ShownValue.decode "pinCode" none false [.str "739***846"] = .ok (.text "739***846") ∧
      MaskedPath "739***846" "739***846" ∧ Secret.HasMaskForm "739***846" := by
  intro values shown
  obtain ⟨hkernel, -, -, hpaths⟩ := mask_reveals_ends_only
  have hdecode : ShownValue.decode "script" none false values = .ok shown := rfl
  have hkey : "command" ∈ Layout.script.maskedKeys := by decide
  have hsecond : (objectsOf values)[1]? = some [("command", .num (.int 12345678))] := rfl
  have hcommand : MaskedPath "12345678" "123***678" :=
    .part rfl hkey hsecond rfl hdecode rfl rfl
  have hpin : ShownValue.decode "pinCode" none false [.str "739***846"] =
      .ok (.text "739***846") := rfl
  have hcode : MaskedPath "739***846" "739***846" := .scalar rfl (by decide) rfl hpin
  refine ⟨(hkernel _ _).mpr (Or.inr (by decide)), fun hmask => ?_, hdecode, hcommand,
    (hpaths _ _ hcommand).1, hpin, hcode, (hpaths _ _ hcode).2 rfl⟩
  exact absurd ((hkernel _ _).mp hmask) (by decide)

end Extraction

end VaultLocator
