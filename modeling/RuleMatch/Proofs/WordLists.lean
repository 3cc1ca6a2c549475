import RuleMatch.Grammar.Basic
import RuleMatch.Rule.Combine

/-!
# A grammar of bracketed lists

A recursive grammar to try laws on.  A list is a word of letters and, any number of times, a comma and a
list; so every list of three words is read in more than one way, and a comma too many at any depth has to
be given back.  A bracketed list stands between parentheses.
-/

namespace RuleMatch

namespace WordLists

/-- The cell of a list. -/
def list : Cell := ⟨0, "list"⟩

/-- A word, and then lists behind commas. -/
def definition : Rule :=
  .oneOrMore .letter + .zeroOrMore (.char ',' + .ref list)

theorem definition_eq :
    definition = .series .spaced
      [.oneOrMore .letter, .zeroOrMore (.series .spaced [.char ',', .ref list])] := rfl

/-- The grammar whose only cell is that of a list. -/
def grammar : Grammar := ⟨#[some definition]⟩

/-- A list between parentheses. -/
def bracketed : Rule := .char '(' + .ref list + .char ')'

theorem bracketed_eq : bracketed = .series .spaced [.char '(', .ref list, .char ')'] := rfl

end WordLists

end RuleMatch
