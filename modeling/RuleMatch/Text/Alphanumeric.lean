import RuleMatch.Text.AlphanumericPoints
import RuleMatch.Text.PointTable

/-!
# Alphanumeric characters

A character is alphanumeric if Unicode calls it alphabetic or a number of any kind.  Below code point
128 these are the letters and digits of ASCII, which are tested directly; all others are looked up.
-/

namespace RuleMatch

/-- Whether a character is alphabetic or numeric in Unicode. -/
def isAlphanumeric (c : Char) : Bool :=
  if c.toNat < 128 then c.isAlphanum else PointTable.contains alphanumericPoints c

end RuleMatch
