/-!
# Sets of characters

A property of characters that a standard lists is kept as the inclusive ranges of the numbers of
the characters that have it. Main statement: `CharSet.contains_eq_false_of_lt`.
-/

namespace ReefCards

/-- A set of characters, given by inclusive ranges of character numbers. -/
structure CharSet where
  ranges : List (Nat × Nat)

/-- Whether the number of the character lies in one of the ranges. -/
def CharSet.contains (set : CharSet) (c : Char) : Bool :=
  set.ranges.any fun range => range.1 ≤ c.toNat && c.toNat ≤ range.2

/-- A character before every range of a set is not in the set. -/
theorem CharSet.contains_eq_false_of_lt (set : CharSet) (bound : Nat) (c : Char)
    (hset : ∀ range ∈ set.ranges, bound ≤ range.1) (hc : c.toNat < bound) :
    set.contains c = false := by
  rw [CharSet.contains, List.any_eq_false]
  intro range hrange
  have := hset range hrange
  simp only [Bool.and_eq_true, decide_eq_true_eq, not_and]
  omega

end ReefCards
