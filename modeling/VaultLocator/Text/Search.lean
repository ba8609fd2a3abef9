/-!
# Looking inside a text

A text is searched as a list of characters. `VaultLocator.Text.occurs` asks whether a word occurs
in it as a contiguous piece, and `VaultLocator.Text.occurs_iff` says that this is the infix
relation on lists. `VaultLocator.Text.anySuffix` is the scan behind every search of the library: it
asks a question at each place of the text, the end included. `VaultLocator.Text.segments` cuts a
text at its separators.
-/

namespace VaultLocator.Text

/-! ### Scanning -/

/-- Whether a property holds of what is left of the text at some place, from the whole text down to
the empty one. -/
def anySuffix (p : List Char → Bool) : List Char → Bool
  | [] => p []
  | c :: rest => p (c :: rest) || anySuffix p rest

theorem anySuffix_iff {p : List Char → Bool} {text : List Char} :
    anySuffix p text = true ↔ ∃ before rest, text = before ++ rest ∧ p rest = true := by
  induction text with
  | nil =>
    constructor
    · exact fun h => ⟨[], [], rfl, h⟩
    · rintro ⟨before, rest, h, hp⟩
      obtain ⟨-, rfl⟩ := List.append_eq_nil_iff.mp h.symm
      exact hp
  | cons c text ih =>
    rw [anySuffix, Bool.or_eq_true, ih]
    constructor
    · rintro (h | ⟨before, rest, rfl, hp⟩)
      · exact ⟨[], c :: text, rfl, h⟩
      · exact ⟨c :: before, rest, rfl, hp⟩
    · rintro ⟨before, rest, h, hp⟩
      cases before with
      | nil =>
        rw [List.nil_append] at h
        exact Or.inl (h ▸ hp)
      | cons d before =>
        obtain ⟨-, h⟩ := List.cons.inj h
        exact Or.inr ⟨before, rest, h, hp⟩

/-- Whether a property that may also look at the character before holds at some place of the text;
`before` is the character in front of the text. -/
def anySuffixAfter (p : Option Char → List Char → Bool) (before : Option Char) :
    List Char → Bool
  | [] => p before []
  | c :: rest => p before (c :: rest) || anySuffixAfter p (some c) rest

/-- Whether a word occurs in the text as a contiguous piece. -/
def occurs (word text : List Char) : Bool :=
  anySuffix word.isPrefixOf text

/-- **A word occurs in a text when it is an infix of it.** -/
theorem occurs_iff {word text : List Char} : occurs word text = true ↔ word <:+: text := by
  rw [occurs, anySuffix_iff]
  constructor
  · rintro ⟨before, rest, rfl, h⟩
    obtain ⟨after, rfl⟩ := List.isPrefixOf_iff_prefix.mp h
    exact ⟨before, after, by simp⟩
  · rintro ⟨before, after, rfl⟩
    exact ⟨before, word ++ after, by simp, List.isPrefixOf_iff_prefix.mpr ⟨after, rfl⟩⟩

/-! ### Cutting -/

/-- A text cut off after a number of characters. -/
def firstChars (text : String) (limit : Nat) : String :=
  String.ofList (text.toList.take limit)

/-- The pieces of a text between its separators; there is one piece more than there are
separators. -/
def segments (separates : Char → Bool) : List Char → List (List Char)
  | [] => [[]]
  | c :: rest =>
    if separates c then
      [] :: segments separates rest
    else
      match segments separates rest with
      | [] => [[c]]
      | piece :: pieces => (c :: piece) :: pieces

/-- The text before the first occurrence of a character and the text after it, if it occurs. -/
def cutAt (mark : Char) : List Char → Option (List Char × List Char)
  | [] => none
  | c :: rest =>
    if c = mark then
      some ([], rest)
    else
      (cutAt mark rest).map fun cut => (c :: cut.1, cut.2)

/-- **A text is cut at the first mark**: the part before it is free of it, and the two parts with
the mark between them are the text. -/
theorem cutAt_eq_some_iff {mark : Char} {text before after : List Char} :
    cutAt mark text = some (before, after) ↔
      text = before ++ mark :: after ∧ mark ∉ before := by
  induction text generalizing before with
  | nil => simp [cutAt]
  | cons c text ih =>
    rw [cutAt]
    split
    · next h =>
      subst h
      cases before with
      | nil => simp
      | cons d before => simp +contextual
    · next h =>
      simp only [Option.map_eq_some_iff, Prod.exists, Prod.mk.injEq]
      cases before with
      | nil => simp [h]
      | cons d before =>
        simp only [List.cons.injEq, List.cons_append, List.mem_cons, not_or]
        constructor
        · rintro ⟨b, a, hcut, ⟨rfl, rfl⟩, rfl⟩
          obtain ⟨rfl, hb⟩ := ih.mp hcut
          exact ⟨⟨rfl, rfl⟩, Ne.symm h, hb⟩
        · rintro ⟨⟨rfl, rfl⟩, -, hb⟩
          exact ⟨before, after, ih.mpr ⟨rfl, hb⟩, ⟨rfl, rfl⟩, rfl⟩

theorem cutAt_eq_none_iff {mark : Char} {text : List Char} :
    cutAt mark text = none ↔ mark ∉ text := by
  induction text with
  | nil => simp [cutAt]
  | cons c text ih =>
    rw [cutAt]
    split
    · next h => simp [h]
    · next h => simp [ih, Ne.symm h]

end VaultLocator.Text
