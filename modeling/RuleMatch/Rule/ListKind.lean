import RuleMatch.Rule.Combine
import RuleMatch.Rule.Description

/-!
# Kinds of lists

A choice and the two kinds of series are lists of rules, and what is said of splicing and of descriptions is
said of all three alike.  A list can be written down as it stands (`ListKind.list`) or put together flat
(`ListKind.flat`), and it is described by the descriptions of its rules with a separator between them.
-/

namespace RuleMatch

/-- A kind of list that a rule may be. -/
inductive ListKind where
  | choice
  | series (spacing : Spacing)
  deriving DecidableEq

/-- The kind of list that a rule is, if it is one. -/
def Rule.listKind? : Rule → Option ListKind
  | .oneOf _ => some .choice
  | .series spacing _ => some (.series spacing)
  | _ => none

namespace ListKind

/-- The list of rules as it stands. -/
def list : ListKind → List Rule → Rule
  | .choice => .oneOf
  | .series spacing => .series spacing

/-- What a rule contributes to a list. -/
def operands : ListKind → Rule → List Rule
  | .choice => Rule.alternatives
  | .series spacing => Rule.parts spacing

/-- The list of rules with the lists of the same kind among them spliced in. -/
def flat : ListKind → List Rule → Rule
  | .choice => Rule.choice
  | .series spacing => Rule.joined spacing

/-- What stands between the descriptions of the rules of a list. -/
def separator : ListKind → String
  | .choice => " | "
  | .series spacing => Rule.separator spacing

theorem flat_eq (kind : ListKind) (rules : List Rule) :
    kind.flat rules = kind.list (rules.flatMap kind.operands) := by
  cases kind <;> rfl

@[simp] theorem listKind?_list (kind : ListKind) (rules : List Rule) :
    (kind.list rules).listKind? = some kind := by
  cases kind <;> rfl

@[simp] theorem isList_list (kind : ListKind) (rules : List Rule) : (kind.list rules).isList = true := by
  cases kind <;> rfl

theorem describe_list (kind : ListKind) (rules : List Rule) :
    (kind.list rules).describe = kind.separator.intercalate (Rule.describeAll rules) := by
  cases kind <;> rfl

theorem list_injective (kind : ListKind) : Function.Injective kind.list := by
  intro rules others h
  cases kind with
  | choice => exact Rule.oneOf.inj h
  | series spacing => exact (Rule.series.inj h).2

/-- A list of the kind contributes its rules. -/
@[simp] theorem operands_list (kind : ListKind) (rules : List Rule) :
    kind.operands (kind.list rules) = rules := by
  cases kind with
  | choice => rfl
  | series spacing => exact if_pos rfl

/-- Any other rule contributes itself. -/
theorem operands_of_ne {kind : ListKind} {rule : Rule} (h : rule.listKind? ≠ some kind) :
    kind.operands rule = [rule] := by
  cases kind with
  | choice =>
      cases rule with
      | oneOf rules => exact absurd rfl h
      | _ => rfl
  | series spacing =>
      cases rule with
      | series own rules =>
          have hown : own ≠ spacing := by
            intro heq
            exact h (by rw [heq, Rule.listKind?])
          exact if_neg hown
      | _ => rfl

/-- A rule of a kind of list is such a list. -/
theorem exists_eq_list {kind : ListKind} {rule : Rule} (h : rule.listKind? = some kind) :
    ∃ rules, rule = kind.list rules := by
  cases rule with
  | oneOf rules =>
      obtain rfl : ListKind.choice = kind := Option.some.inj h
      exact ⟨rules, rfl⟩
  | series spacing rules =>
      obtain rfl : ListKind.series spacing = kind := Option.some.inj h
      exact ⟨rules, rfl⟩
  | _ => simp [Rule.listKind?] at h

end ListKind

end RuleMatch
