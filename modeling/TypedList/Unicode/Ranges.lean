/-!
# Sets of code points

A character property is stored as the ascending list of the closed ranges of code points that
have it.
-/

namespace TypedList.Unicode

/-- A set of code points, as closed ranges from a first to a last code point. -/
abbrev Ranges := List (Nat × Nat)

/-- Whether one of the ranges holds the character. -/
def Ranges.covers (ranges : Ranges) (c : Char) : Bool :=
  ranges.any fun range => range.1 ≤ c.toNat && c.toNat ≤ range.2

/-- A character is covered exactly when it lies between the ends of some range. -/
theorem Ranges.covers_iff {ranges : Ranges} {c : Char} :
    ranges.covers c = true ↔ ∃ range ∈ ranges, range.1 ≤ c.toNat ∧ c.toNat ≤ range.2 := by
  simp [Ranges.covers]

end TypedList.Unicode
