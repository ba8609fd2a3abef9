import Mathlib.Data.List.Infix
import VaultLocator.Proofs.Text.LetterCase
import VaultLocator.Text.Lowercase

/-!
# Lower case, piece by piece

The lower-case form of a text is put together from the forms that its pieces take where they stand
(`VaultLocator.Text.loweredIn`, `VaultLocator.Text.lowercaseAfter_append`). A piece takes the same
form everywhere but for its capital sigmas, which look at what stands around them: it is lowered in
its place as it is on its own exactly if its sigmas are (`VaultLocator.Text.KeepsSigmas`,
`VaultLocator.Text.loweredIn_eq_lowercase_iff`). Without capital sigmas that is always so.

The case of ASCII letters has no part in it, neither in the piece nor around it
(`VaultLocator.Text.loweredIn_congr`): a letter and its capital have one lower-case form, and a
sigma that looks at them sees the same. Together these give
`VaultLocator.Text.lowercase_infix_lowercase`, which says when a text that is searched for in a
longer one, up to the case of ASCII letters, is still found once both are in lower case.
-/

namespace VaultLocator.Text

variable {c : Char} {before text after : List Char}

/-! ### Pieces -/

/-- The lower-case form of a character that follows the characters `before`, nearest first, and is
followed by those `after` it. -/
def loweredChar (before : List Char) (c : Char) (after : List Char) : List Char :=
  if c = '\u03A3' then [lowerSigma before after] else lowerChar c

/-- The form that a piece of a text takes in lower case after the characters `before`, nearest
first, and in front of those `after` it. -/
def loweredIn (before text after : List Char) : List Char :=
  match text with
  | [] => []
  | c :: rest => loweredChar before c (rest ++ after) ++ loweredIn (c :: before) rest after

theorem lowercaseAfter_cons (before : List Char) (c : Char) (rest : List Char) :
    lowercaseAfter before (c :: rest) =
      loweredChar before c rest ++ lowercaseAfter (c :: before) rest := by
  rw [lowercaseAfter, loweredChar]
  split <;> rfl

/-- **The lower-case form of a text is that of its pieces where they stand.** -/
theorem lowercaseAfter_append (before text after : List Char) :
    lowercaseAfter before (text ++ after) =
      loweredIn before text after ++ lowercaseAfter (text.reverse ++ before) after := by
  induction text generalizing before with
  | nil => rfl
  | cons c rest ih =>
    rw [List.cons_append, lowercaseAfter_cons, ih, loweredIn, List.append_assoc,
      List.reverse_cons, List.append_assoc, List.singleton_append]

/-- The form of a piece in its place is an infix of the whole in lower case. -/
theorem loweredIn_infix (before text after : List Char) :
    loweredIn before.reverse text after <:+: lowercase (before ++ (text ++ after)) := by
  rw [lowercase, lowercaseAfter_append, lowercaseAfter_append, List.append_nil]
  exact ⟨_, _, List.append_assoc _ _ _⟩

/-! ### Sigmas -/

/-- **A piece keeps its sigmas** in a place if each of its capital sigmas has the form there that it
has in the piece on its own. -/
def KeepsSigmas (before text after : List Char) : Prop :=
  ∀ start rest, text = start ++ '\u03A3' :: rest →
    lowerSigma (start.reverse ++ before) (rest ++ after) = lowerSigma start.reverse rest

theorem keepsSigmas_of_notMem (h : '\u03A3' ∉ text) : KeepsSigmas before text after := by
  rintro start rest rfl
  exact absurd (by simp) h

/-- The form of a character in two places has the same length. -/
theorem length_loweredChar (before after before' after' : List Char) (c : Char) :
    (loweredChar before c after).length = (loweredChar before' c after').length := by
  rw [loweredChar, loweredChar]
  split <;> rfl

theorem loweredChar_eq_iff {before' after' : List Char} :
    loweredChar before c after = loweredChar before' c after' ↔
      (c = '\u03A3' → lowerSigma before after = lowerSigma before' after') := by
  rw [loweredChar, loweredChar]
  split
  · next h => simp [h]
  · next h => simp [h]

/-- What is left of a piece whose start has been read is lowered as on its own exactly if the sigmas
in it are. -/
theorem loweredIn_append_eq_iff (start : List Char) :
    loweredIn (start ++ before) text after = lowercaseAfter start text ↔
      ∀ front rest, text = front ++ '\u03A3' :: rest →
        lowerSigma (front.reverse ++ (start ++ before)) (rest ++ after) =
          lowerSigma (front.reverse ++ start) rest := by
  induction text generalizing start with
  | nil => simp [loweredIn, lowercaseAfter]
  | cons c text ih =>
    have hlength := length_loweredChar (start ++ before) (text ++ after) start text c
    have hrest := ih (c :: start)
    rw [List.cons_append] at hrest
    rw [loweredIn, lowercaseAfter_cons]
    constructor
    · rintro h front rest htext
      obtain ⟨hchar, htail⟩ := List.append_inj h hlength
      cases front with
      | nil =>
        obtain ⟨rfl, rfl⟩ := List.cons.inj htext
        exact loweredChar_eq_iff.mp hchar rfl
      | cons d front =>
        obtain ⟨rfl, rfl⟩ := List.cons.inj htext
        have hsigma := hrest.mp htail front rest rfl
        simpa using hsigma
    · intro h
      have hchar : loweredChar (start ++ before) c (text ++ after) = loweredChar start c text :=
        loweredChar_eq_iff.mpr fun hc => h [] text (by rw [hc]; rfl)
      have htail := hrest.mpr fun front rest htext => by
        have hsigma := h (c :: front) rest (by rw [htext]; rfl)
        simpa using hsigma
      rw [hchar, htail]

/-- **A piece is lowered in its place as on its own exactly if it keeps its sigmas.** -/
theorem loweredIn_eq_lowercase_iff :
    loweredIn before text after = lowercase text ↔ KeepsSigmas before text after := by
  have h := @loweredIn_append_eq_iff before text after []
  simp only [List.nil_append, List.append_nil] at h
  exact h

/-! ### The case of ASCII letters -/

theorem isCased_toLower (c : Char) : isCased c.toLower = isCased c :=
  toLower_congr (by decide +kernel) c

/-- The letters of ASCII are not case-ignorable. -/
theorem isCaseIgnorable_toLower (c : Char) : isCaseIgnorable c.toLower = isCaseIgnorable c := by
  have hranges : ∀ r ∈ caseIgnorableRanges, r.2 < 65 ∨ 90 < r.1 ∧ r.2 < 97 ∨ 122 < r.1 := by
    decide +kernel
  have hcodes : ∀ n < 26, (Char.ofNat (65 + n)).toNat = 65 + n ∧
      (Char.ofNat (65 + n)).toLower.toNat = 97 + n := by decide +kernel
  refine toLower_congr (fun n hn => ?_) c
  obtain ⟨hcapital, hsmall⟩ := hcodes n hn
  rw [isCaseIgnorable, isCaseIgnorable, Bool.eq_iff_iff, inRanges_iff, inRanges_iff, hcapital,
    hsmall]
  constructor
  all_goals
    rintro ⟨r, hr, hfirst, hlast⟩
    have hapart := hranges r hr
    omega

theorem lowerChar_toLower (c : Char) : lowerChar c.toLower = lowerChar c :=
  toLower_congr (by decide +kernel) c

theorem toLower_eq_sigma_iff : c.toLower = '\u03A3' ↔ c = '\u03A3' := by
  have h := toLower_congr (f := fun c => decide (c = '\u03A3')) (by decide +kernel) c
  rwa [decide_eq_decide] at h

theorem meetsCased_map_toLower (text : List Char) :
    meetsCased (text.map Char.toLower) = meetsCased text := by
  induction text with
  | nil => rfl
  | cons c rest ih =>
    rw [List.map_cons, meetsCased, meetsCased, ih, isCased_toLower, isCaseIgnorable_toLower]

theorem loweredChar_map_toLower (before : List Char) (c : Char) (after : List Char) :
    loweredChar (before.map Char.toLower) c.toLower (after.map Char.toLower) =
      loweredChar before c after := by
  simp only [loweredChar, lowerSigma, meetsCased_map_toLower, lowerChar_toLower,
    toLower_eq_sigma_iff]

theorem loweredIn_map_toLower (before text after : List Char) :
    loweredIn (before.map Char.toLower) (text.map Char.toLower) (after.map Char.toLower) =
      loweredIn before text after := by
  induction text generalizing before with
  | nil => rfl
  | cons c rest ih =>
    rw [List.map_cons, loweredIn, loweredIn, ← List.map_append, loweredChar_map_toLower,
      ← List.map_cons, ih]

/-- **The case of ASCII letters does not matter** in a piece that is lowered. -/
theorem loweredIn_congr {text' : List Char} (h : text'.map Char.toLower = text.map Char.toLower)
    (before after : List Char) : loweredIn before text' after = loweredIn before text after := by
  rw [← loweredIn_map_toLower, h, loweredIn_map_toLower]

/-- **A text is found in lower case** where it stands in another text up to the case of ASCII
letters, if it keeps its sigmas there. -/
theorem lowercase_infix_lowercase {held : List Char}
    (h : held.map Char.toLower = text.map Char.toLower)
    (hsigmas : KeepsSigmas before.reverse text after) :
    lowercase text <:+: lowercase (before ++ (held ++ after)) := by
  have hinfix := loweredIn_infix before held after
  rwa [loweredIn_congr h, loweredIn_eq_lowercase_iff.mpr hsigmas] at hinfix

end VaultLocator.Text
