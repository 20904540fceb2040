/-!
# Ranges of code points

A property of characters is given as a list of ranges of code points, both ends included.
`isIn_iff` reads membership as a statement about numbers.
-/

namespace ChainProduct.Text

/-- Ranges of code points, each with its first and its last member. -/
abbrev CodeRanges := List (Nat × Nat)

/-- The code point of the character lies in one of the ranges. -/
def isIn (ranges : CodeRanges) (c : Char) : Bool :=
  ranges.any fun range ↦ range.1 ≤ c.toNat && c.toNat ≤ range.2

/-- Membership in ranges, as a statement about the code point. -/
theorem isIn_iff {ranges : CodeRanges} {c : Char} :
    isIn ranges c ↔ ∃ range ∈ ranges, range.1 ≤ c.toNat ∧ c.toNat ≤ range.2 := by
  simp [isIn]

/-- A character that lies before or behind each of the ranges is in none of them. -/
theorem isIn_eq_false {ranges : CodeRanges} {c : Char}
    (h : ∀ range ∈ ranges, c.toNat < range.1 ∨ range.2 < c.toNat) : isIn ranges c = false := by
  refine Bool.eq_false_iff.mpr fun hin ↦ ?_
  obtain ⟨range, hrange, hfirst, hlast⟩ := isIn_iff.mp hin
  have := h range hrange
  omega

end ChainProduct.Text
