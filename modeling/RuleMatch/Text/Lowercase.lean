import RuleMatch.Text.CapitalRuns
import RuleMatch.Text.CasePoints
import RuleMatch.Text.PointTable
import RuleMatch.Text.Width

/-!
# Lowercase text

`Text.lowercase` writes a text in lowercase as Unicode lays down for text of no particular language.
Nearly every character is treated by itself: a capital has one lowercase form, except that the dotted
capital I becomes an `i` followed by a combining dot.  The one rule that looks at the neighbours is that
of the capital sigma, which at the end of a word becomes a final sigma.
-/

namespace RuleMatch

/-- The code point at which each run of capitals starts. -/
def capitalStarts : Array Nat :=
  capitalRuns.map CapitalRun.first

/-- The lowercase form of a character, without regard to its neighbours. -/
def lowercaseChar (c : Char) : Text :=
  if c.toNat < 128 then [c.toLower]
  else if c = 'İ' then ['i', '\u0307']
  else
    match capitalRuns[PointTable.rank capitalStarts c.toNat - 1]? with
    | none => [c]
    | some run =>
        if run.first ≤ c.toNat ∧ c.toNat ≤ run.last ∧ (c.toNat - run.first) % run.step = 0 then
          [Char.ofNat (c.toNat + run.shift).toNat]
        else [c]

namespace Text

/-- Whether the first character that is not case-ignorable is cased. -/
def meetsCased (cs : Text) : Bool :=
  match cs.dropWhile (PointTable.contains caseIgnorablePoints) with
  | [] => false
  | c :: _ => PointTable.contains casedPoints c

/-- Lowercase of a text that follows `before`, whose nearest character comes first. -/
def lowercaseAfter (before : Text) : Text → Text
  | [] => []
  | c :: cs =>
      let form :=
        if c = 'Σ' then (if meetsCased before && !meetsCased cs then ['ς'] else ['σ'])
        else lowercaseChar c
      form ++ lowercaseAfter (c :: before) cs

/-- The text in lowercase. -/
def lowercase (cs : Text) : Text :=
  lowercaseAfter [] cs

end Text

/-- The string in lowercase. -/
def lowercaseString (s : String) : String :=
  String.ofList (Text.lowercase s.toList)

end RuleMatch
