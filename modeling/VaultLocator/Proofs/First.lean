/-!
# First elements

Whatever is looked up in a list, it is the first element that will do. `VaultLocator.IsFirst` says
so of an element by its place in the list, without a search: it has a property, and none before it
has. A list has such an element unless it has none with the property at all
(`VaultLocator.exists_isFirst_or_none`).
-/

namespace VaultLocator

section First

variable {α : Type} {p : α → Prop} {q : α → Bool} {xs : List α} {x : α}

/-- **The first element with a property**: it has the property, and none before it has. -/
def IsFirst (p : α → Prop) (xs : List α) (x : α) : Prop :=
  ∃ before after, xs = before ++ x :: after ∧ p x ∧ ∀ y ∈ before, ¬p y

theorem IsFirst.holds (h : IsFirst p xs x) : p x := by
  obtain ⟨-, -, -, hx, -⟩ := h
  exact hx

theorem IsFirst.mem (h : IsFirst p xs x) : x ∈ xs := by
  obtain ⟨before, after, rfl, -, -⟩ := h
  exact List.mem_append_right before List.mem_cons_self

/-- The first element is what is found by a test of the property. -/
theorem find?_eq_some_iff_isFirst (h : ∀ y ∈ xs, q y = true ↔ p y) :
    xs.find? q = some x ↔ IsFirst p xs x := by
  rw [List.find?_eq_some_iff_append]
  constructor
  · rintro ⟨hx, before, after, rfl, hbefore⟩
    refine ⟨before, after, rfl, (h x (by simp)).mp hx, fun y hy hp => ?_⟩
    have hq := (h y (List.mem_append_left _ hy)).mpr hp
    simpa [hq] using hbefore y hy
  · rintro ⟨before, after, rfl, hx, hbefore⟩
    refine ⟨(h x (by simp)).mpr hx, before, after, rfl, fun y hy => ?_⟩
    have hq : q y ≠ true := fun hq => hbefore y hy ((h y (List.mem_append_left _ hy)).mp hq)
    simpa using hq

/-- The first element that has a value is what is found by a search for a value. -/
theorem findSome?_eq_some_iff_isFirst {β : Type} {f : α → Option β} {b : β} :
    xs.findSome? f = some b ↔ ∃ x, IsFirst (fun y => ∃ c, f y = some c) xs x ∧ f x = some b := by
  rw [List.findSome?_eq_some_iff]
  constructor
  · rintro ⟨before, x, after, rfl, hx, hbefore⟩
    refine ⟨x, ⟨before, after, rfl, ⟨b, hx⟩, fun y hy ⟨c, hc⟩ => ?_⟩, hx⟩
    rw [hbefore y hy] at hc
    cases hc
  · rintro ⟨x, ⟨before, after, rfl, -, hbefore⟩, hx⟩
    refine ⟨before, x, after, rfl, hx, fun y hy => ?_⟩
    exact Option.eq_none_iff_forall_ne_some.mpr fun c hc => hbefore y hy ⟨c, hc⟩

theorem exists_isFirst_or_none (p : α → Prop) (xs : List α) :
    (∃ x, IsFirst p xs x) ∨ ∀ x ∈ xs, ¬p x := by
  classical
  have htest : ∀ x ∈ xs, decide (p x) = true ↔ p x := fun _ _ => decide_eq_true_iff
  cases hfind : xs.find? (p ·) with
  | none =>
    have hnone := List.find?_eq_none.mp hfind
    exact Or.inr fun x hmem hp => hnone x hmem (decide_eq_true hp)
  | some x => exact Or.inl ⟨x, (find?_eq_some_iff_isFirst htest).mp hfind⟩

end First

end VaultLocator
