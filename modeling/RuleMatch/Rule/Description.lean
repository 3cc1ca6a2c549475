import RuleMatch.Rule.Basic

/-!
# Descriptions of rules

A rule is described in the notation of grammars: character classes in brackets, a character in quotes, a
keyword or a name by itself, `a | b` for a choice, `a b` and `ab` for the two kinds of series, and a mark
behind a repetition or an option.  A choice or series in front of such a mark is put in parentheses.  A
recursive rule is described by its name only, so descriptions are finite.
-/

namespace RuleMatch

namespace Terminal

/-- How a terminal is described, which is also what a failed match says it expected. -/
def describe : Terminal → String
  | .digit => "[0-9]"
  | .letter => "[a-zA-Z]"
  | .blank => "[\\s\\t\\r\\n]"
  | .char c => "'" ++ c.toString ++ "'"
  | .keyword text => text

end Terminal

namespace Rule

/-- Whether a rule is described by a list, and so takes parentheses in front of a mark. -/
def isList : Rule → Bool
  | .oneOf _ => true
  | .series _ _ => true
  | _ => false

/-- What stands between the descriptions of the parts of a series. -/
def separator : Spacing → String
  | .spaced => " "
  | .adjacent => ""

/-- A description as the operand of a mark. -/
def grouped (list : Bool) (description : String) : String :=
  if list then "(" ++ description ++ ")" else description

mutual

/-- The description of a rule. -/
def describe : Rule → String
  | .terminal t => t.describe
  | .named name _ => name
  | .oneOrMore body => grouped body.isList body.describe ++ "+"
  | .zeroOrMore body => grouped body.isList body.describe ++ "*"
  | .optional body => grouped body.isList body.describe ++ "?"
  | .oneOf alternatives => " | ".intercalate (describeAll alternatives)
  | .series spacing parts => (separator spacing).intercalate (describeAll parts)
  | .ref cell => cell.name

/-- The descriptions of the rules of a list. -/
def describeAll : List Rule → List String
  | [] => []
  | rule :: rules => rule.describe :: describeAll rules

end

theorem length_describeAll (rules : List Rule) : (describeAll rules).length = rules.length := by
  induction rules with
  | nil => rfl
  | cons rule rules ih => rw [describeAll, List.length_cons, List.length_cons, ih]

theorem describeAll_append (rules others : List Rule) :
    describeAll (rules ++ others) = describeAll rules ++ describeAll others := by
  induction rules with
  | nil => rfl
  | cons rule rules ih => rw [List.cons_append, describeAll, describeAll, List.cons_append, ih]

instance : ToString Rule := ⟨describe⟩

end Rule

end RuleMatch
