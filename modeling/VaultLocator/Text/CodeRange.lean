/-!
# Sets of characters as lists of code ranges

A property of characters that a standard fixes by enumeration is kept here as a table: a list of
closed intervals of code points. `VaultLocator.Text.inRanges` reads such a table, and
`VaultLocator.Text.inRanges_iff` says what it means: the code of the character lies in one of the
intervals.
-/

namespace VaultLocator.Text

/-- A closed interval of code points, its least element first. -/
abbrev CodeRange := Nat × Nat

/-- Whether the code of a character lies in one of the intervals of a table. -/
def inRanges (table : List CodeRange) (c : Char) : Bool :=
  table.any fun r => decide (r.1 ≤ c.toNat) && decide (c.toNat ≤ r.2)

theorem inRanges_iff {table : List CodeRange} {c : Char} :
    inRanges table c = true ↔ ∃ r ∈ table, r.1 ≤ c.toNat ∧ c.toNat ≤ r.2 := by
  simp [inRanges]

end VaultLocator.Text
