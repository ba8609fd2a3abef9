/-!
# Dictionaries keyed by text

A dictionary is kept as its list of entries in increasing order of the keys, no key twice, so two
dictionaries with the same entries are equal, and the order in which they are written out is the
order of the keys by code point. Entering a value under a key that is already there replaces the
value: the last write wins.

Main statements: `VaultLocator.Dict.get?_insert` says what is found after an insertion, and
`VaultLocator.Dict.ext_get?` that a dictionary is determined by what is found in it.
-/

namespace VaultLocator

/-- A dictionary from texts to values. -/
structure Dict (α : Type) where
  /-- The entries, in increasing order of the keys. -/
  entries : List (String × α)
  /-- The keys increase, so none occurs twice. -/
  sorted : entries.Pairwise (·.1 < ·.1)

namespace Dict

variable {α : Type}

/-! ### Looking up and entering, on lists of entries -/

/-- The value of the first entry under a key. -/
def find? (key : String) : List (String × α) → Option α
  | [] => none
  | entry :: rest => if entry.1 = key then some entry.2 else find? key rest

/-- Enters a value under a key at its place in the order, replacing the value that is there. -/
def enter (key : String) (value : α) : List (String × α) → List (String × α)
  | [] => [(key, value)]
  | entry :: rest =>
    if key < entry.1 then
      (key, value) :: entry :: rest
    else if entry.1 = key then
      (key, value) :: rest
    else
      entry :: enter key value rest

theorem mem_enter {key : String} {value : α} {entries : List (String × α)} {e : String × α}
    (h : e ∈ enter key value entries) : e = (key, value) ∨ e ∈ entries := by
  induction entries with
  | nil => exact Or.inl (by simpa [enter] using h)
  | cons entry rest ih =>
    rw [enter] at h
    split at h
    · rcases List.mem_cons.mp h with h | h
      · exact Or.inl h
      · exact Or.inr h
    · split at h
      · rcases List.mem_cons.mp h with h | h
        · exact Or.inl h
        · exact Or.inr (List.mem_cons_of_mem _ h)
      · rcases List.mem_cons.mp h with h | h
        · exact Or.inr (h ▸ List.mem_cons_self)
        · rcases ih h with h | h
          · exact Or.inl h
          · exact Or.inr (List.mem_cons_of_mem _ h)

theorem mem_enter_self (key : String) (value : α) (entries : List (String × α)) :
    (key, value) ∈ enter key value entries := by
  induction entries with
  | nil => exact List.mem_cons_self
  | cons entry rest ih =>
    rw [enter]
    split
    · exact List.mem_cons_self
    · split
      · exact List.mem_cons_self
      · exact List.mem_cons_of_mem _ ih

/-- A text that is neither before another nor equal to it comes after it. -/
theorem lt_of_not_lt_of_ne {a b : String} (h : ¬a < b) (hne : b ≠ a) : b < a := by
  rcases Classical.em (b < a) with hlt | hlt
  · exact hlt
  · exact absurd (String.le_antisymm (String.not_lt.mp h) (String.not_lt.mp hlt)) hne

theorem pairwise_enter {key : String} {value : α} {entries : List (String × α)}
    (h : entries.Pairwise (·.1 < ·.1)) : (enter key value entries).Pairwise (·.1 < ·.1) := by
  induction entries with
  | nil => simp [enter]
  | cons entry rest ih =>
    obtain ⟨hhead, htail⟩ := List.pairwise_cons.mp h
    rw [enter]
    split
    · next hlt =>
      refine List.pairwise_cons.mpr ⟨fun e he => ?_, h⟩
      rcases List.mem_cons.mp he with rfl | he
      · exact hlt
      · exact String.lt_trans hlt (hhead e he)
    · next hlt =>
      split
      · next heq => exact List.pairwise_cons.mpr ⟨fun e he => heq ▸ hhead e he, htail⟩
      · next hne =>
        refine List.pairwise_cons.mpr ⟨fun e he => ?_, ih htail⟩
        rcases mem_enter he with rfl | he
        · exact lt_of_not_lt_of_ne hlt hne
        · exact hhead e he

theorem find?_enter {key k : String} {value : α} {entries : List (String × α)} :
    find? k (enter key value entries) = if key = k then some value else find? k entries := by
  induction entries with
  | nil => simp [enter, find?]
  | cons entry rest ih =>
    rw [enter]
    split
    · simp [find?]
    · split
      · next heq => subst heq; simp only [find?]; split <;> rfl
      · next hne =>
        simp only [find?, ih]
        split
        · next h => subst h; rw [if_neg (Ne.symm hne)]
        · rfl

theorem find?_head (entry : String × α) (rest : List (String × α)) :
    find? entry.1 (entry :: rest) = some entry.2 :=
  if_pos rfl

/-- Nothing is found under a key that no entry has. -/
theorem find?_eq_none_of_forall_ne {k : String} {entries : List (String × α)}
    (h : ∀ e ∈ entries, e.1 ≠ k) : find? k entries = none := by
  induction entries with
  | nil => rfl
  | cons entry rest ih =>
    rw [find?, if_neg (h entry List.mem_cons_self), ih fun e he => h e (List.mem_cons_of_mem _ he)]

/-- Nothing is found under a key that comes before all the keys. -/
theorem find?_eq_none_of_lt {k : String} {entries : List (String × α)}
    (h : ∀ e ∈ entries, k < e.1) : find? k entries = none :=
  find?_eq_none_of_forall_ne fun e he heq => String.lt_irrefl k (heq ▸ h e he)

/-! ### Dictionaries -/

/-- The dictionary without entries. -/
def empty : Dict α :=
  ⟨[], List.Pairwise.nil⟩

/-- Enters a value under a key; a value that is already there is replaced. -/
def insert (d : Dict α) (key : String) (value : α) : Dict α :=
  ⟨enter key value d.entries, pairwise_enter d.sorted⟩

/-- The value under a key, if there is one. -/
def get? (d : Dict α) (key : String) : Option α :=
  find? key d.entries

/-- Whether there is a value under a key. -/
def contains (d : Dict α) (key : String) : Bool :=
  (d.get? key).isSome

/-- The dictionary of a list of pairs, where the last pair with a key wins. -/
def ofList (pairs : List (String × α)) : Dict α :=
  pairs.foldl (fun d pair => d.insert pair.1 pair.2) empty

@[simp] theorem get?_empty (k : String) : (empty : Dict α).get? k = none := rfl

/-- **What is found after an insertion.** -/
theorem get?_insert (d : Dict α) (key k : String) (value : α) :
    (d.insert key value).get? k = if key = k then some value else d.get? k :=
  find?_enter

private theorem entries_ext {xs ys : List (String × α)} (hx : xs.Pairwise (·.1 < ·.1))
    (hy : ys.Pairwise (·.1 < ·.1)) (h : ∀ k, find? k xs = find? k ys) : xs = ys := by
  induction xs generalizing ys with
  | nil =>
    cases ys with
    | nil => rfl
    | cons y ys => simpa [find?] using h y.1
  | cons x xs ih =>
    obtain ⟨hxhead, hxtail⟩ := List.pairwise_cons.mp hx
    cases ys with
    | nil => simpa [find?] using h x.1
    | cons y ys =>
      obtain ⟨hyhead, hytail⟩ := List.pairwise_cons.mp hy
      -- The two least keys agree: the lesser of them would be found on one side only.
      have hkey : x.1 = y.1 := by
        rcases Classical.em (x.1 < y.1) with hlt | hlt
        · have hnone : find? x.1 (y :: ys) = none := by
            refine find?_eq_none_of_lt fun e he => ?_
            rcases List.mem_cons.mp he with rfl | he
            · exact hlt
            · exact String.lt_trans hlt (hyhead e he)
          rw [← h x.1, find?_head] at hnone
          cases hnone
        · rcases Classical.em (y.1 < x.1) with hlt' | hlt'
          · have hnone : find? y.1 (x :: xs) = none := by
              refine find?_eq_none_of_lt fun e he => ?_
              rcases List.mem_cons.mp he with rfl | he
              · exact hlt'
              · exact String.lt_trans hlt' (hxhead e he)
            rw [h y.1, find?_head] at hnone
            cases hnone
          · exact String.le_antisymm (String.not_lt.mp hlt') (String.not_lt.mp hlt)
      have hvalue : x.2 = y.2 := by simpa [find?, hkey] using h y.1
      -- Below the common least key nothing is found in either rest, and above it the heads
      -- are passed over, so the rests agree on every key.
      have htails : xs = ys := by
        refine ih hxtail hytail fun k => ?_
        have hk := h k
        simp only [find?, hkey] at hk
        split at hk
        · next heq =>
          rw [find?_eq_none_of_lt fun e he => heq ▸ hkey ▸ hxhead e he,
            find?_eq_none_of_lt fun e he => heq ▸ hyhead e he]
        · exact hk
      rw [Prod.ext hkey hvalue, htails]

/-- **A dictionary is determined by what is found in it.** -/
theorem ext_get? {d e : Dict α} (h : ∀ k, d.get? k = e.get? k) : d = e := by
  obtain ⟨xs, hx⟩ := d
  obtain ⟨ys, hy⟩ := e
  obtain rfl : xs = ys := entries_ext hx hy h
  rfl

end Dict

end VaultLocator
