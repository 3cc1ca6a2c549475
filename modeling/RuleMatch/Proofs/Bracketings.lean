import RuleMatch.Rule.Combine

/-!
# Bracketings of a chain

A chain of rules can be put together two at a time, in any order that keeps the rules in their places: from the
left, from the right, or in groups that are put together later.  Which groups are made is a binary tree whose
leaves are the rules.

All these ways come to one rule, the list of all rules at once (`bracketing_makes_no_difference`).  A leaf is
opened once, when it becomes an operand for the first time, and so are its neighbours.  What was built on the way is
a list that has been spliced already, and to splice it in again puts its operands where they belong and opens none
of them: so a list inside a leaf stays closed, even if it is of the same kind.
-/

namespace RuleMatch

/-- A way to put rules together two at a time. -/
inductive Bracketing where
  | single (rule : Rule)
  | join (left right : Bracketing)

namespace Bracketing

/-- The rules that are put together, from left to right. -/
def rules : Bracketing → List Rule
  | .single rule => [rule]
  | .join left right => left.rules ++ right.rules

/-- The rule that comes of it, if `combine` puts two rules together. -/
def build (combine : Rule → Rule → Rule) : Bracketing → Rule
  | .single rule => rule
  | .join left right => combine (left.build combine) (right.build combine)

section Flat

variable {wrap : List Rule → Rule} {operands : Rule → List Rule}

/-- If a list has the operands that it was made of, then what a bracketing builds has those of its rules. -/
theorem operands_build (hwrap : ∀ rules, operands (wrap rules) = rules) (tree : Bracketing) :
    operands (tree.build fun rule other => wrap ([rule, other].flatMap operands))
      = tree.rules.flatMap operands := by
  induction tree with
  | single rule => simp [build, rules]
  | join left right ihleft ihright =>
      rw [build, hwrap, rules, List.flatMap_append, ← ihleft, ← ihright]
      simp

/-- So every join makes one list of all operands. -/
theorem build_eq (hwrap : ∀ rules, operands (wrap rules) = rules) {tree : Bracketing}
    (h : 2 ≤ tree.rules.length) :
    tree.build (fun rule other => wrap ([rule, other].flatMap operands))
      = wrap (tree.rules.flatMap operands) := by
  cases tree with
  | single rule => simp [rules] at h
  | join left right => rw [← operands_build hwrap, build, hwrap]

end Flat

theorem build_either {tree : Bracketing} (h : 2 ≤ tree.rules.length) :
    tree.build Rule.either = Rule.choice tree.rules :=
  build_eq (fun _ => rfl) h

theorem build_joined (spacing : Spacing) {tree : Bracketing} (h : 2 ≤ tree.rules.length) :
    (tree.build fun rule other => Rule.joined spacing [rule, other]) = Rule.joined spacing tree.rules :=
  build_eq (fun _ => if_pos rfl) h

/-- However a chain of two rules or more is bracketed, the rule that comes of it is the one list of them: a choice,
a series that may have blanks between its parts, or one that may not.  The rules may be lists themselves, of any
kind and with any lists inside. -/
theorem bracketing_makes_no_difference (tree : Bracketing) (h : 2 ≤ tree.rules.length) :
    tree.build Rule.followedBy = Rule.spaced tree.rules ∧
      tree.build (· + ·) = Rule.spaced tree.rules ∧
      tree.build Rule.either = Rule.choice tree.rules ∧
      tree.build (· ||| ·) = Rule.choice tree.rules ∧
      tree.build Rule.directlyFollowedBy = Rule.adjacent tree.rules :=
  ⟨build_joined .spaced h, build_joined .spaced h, build_either h, build_either h, build_joined .adjacent h⟩

/-- Four rules in two groups.  Among them are a series with a series inside, a series of no parts, and a choice with
a choice inside. -/
def grouped : Bracketing :=
  .join (.join (.single .digit) (.single (.series .spaced [.letter, .series .spaced [.blank]])))
    (.join (.single (.series .spaced [])) (.single (.oneOf [.char 'a', .oneOf []])))

/-- The lists of the same kind are opened, those inside them are not, and neither are those of another kind. -/
theorem grouped_opens_once :
    grouped.build (· + ·)
        = .series .spaced [.digit, .letter, .series .spaced [.blank], .oneOf [.char 'a', .oneOf []]] ∧
      grouped.build (· ||| ·)
        = .oneOf [.digit, .series .spaced [.letter, .series .spaced [.blank]], .series .spaced [], .char 'a',
            .oneOf []] ∧
      grouped.build Rule.directlyFollowedBy
        = .series .adjacent [.digit, .series .spaced [.letter, .series .spaced [.blank]], .series .spaced [],
            .oneOf [.char 'a', .oneOf []]] := by
  obtain ⟨-, hspaced, -, hchoice, hadjacent⟩ := bracketing_makes_no_difference grouped (by decide)
  rw [hspaced, hchoice, hadjacent]
  exact ⟨rfl, rfl, rfl⟩

end Bracketing

end RuleMatch
