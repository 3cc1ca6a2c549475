/-!
# Tables of code points

A set of characters that is a union of few ranges is given by the ascending list of the code points at
which membership changes.  A code point belongs to the set when an odd number of changes lie at or
before it.  `rank` counts those changes by bisection, so a look-up takes a logarithmic number of steps.
-/

namespace RuleMatch.PointTable

/-- Bisects `points[lo], …, points[hi - 1]`, in at most `steps` steps, for the first entry above `n`. -/
def bisect (points : Array Nat) (n : Nat) : (steps lo hi : Nat) → Nat
  | 0, lo, _ => lo
  | steps + 1, lo, hi =>
      if lo < hi then
        let mid := (lo + hi) / 2
        if points[mid]?.any (· ≤ n) then
          bisect points n steps (mid + 1) hi
        else
          bisect points n steps lo mid
      else
        lo

/-- The number of entries of an ascending table that are at most `n`. -/
def rank (points : Array Nat) (n : Nat) : Nat :=
  bisect points n points.size 0 points.size

/-- Membership in the set of characters that a table of changes describes. -/
def contains (points : Array Nat) (c : Char) : Bool :=
  rank points c.toNat % 2 == 1

end RuleMatch.PointTable
