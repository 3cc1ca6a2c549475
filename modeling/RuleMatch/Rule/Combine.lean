import RuleMatch.Rule.Basic

/-!
# Putting rules together

Choices and series are built flat: a choice among the operands of a choice is spliced into the outer
choice, and a series into an outer series of the same spacing.  One level is spliced and no more, and a
rule under a name is never opened.  `r ||| s` is a choice and `r + s` a spaced series.

Characters, strings, lists of rules and cells stand for rules where a rule is expected.
-/

namespace RuleMatch.Rule

/-- The alternatives that a rule contributes to a choice. -/
def alternatives : Rule → List Rule
  | .oneOf rules => rules
  | rule => [rule]

/-- The parts that a rule contributes to a series. -/
def parts (spacing : Spacing) : Rule → List Rule
  | .series own rules => if own = spacing then rules else [.series own rules]
  | rule => [rule]

/-- A choice among rules, with the choices among them spliced in. -/
def choice (rules : List Rule) : Rule :=
  .oneOf (rules.flatMap alternatives)

/-- A series of rules, with the series of the same spacing among them spliced in. -/
def joined (spacing : Spacing) (rules : List Rule) : Rule :=
  .series spacing (rules.flatMap (parts spacing))

/-- A series whose parts may stand apart. -/
def spaced (rules : List Rule) : Rule :=
  joined .spaced rules

/-- A series whose parts follow each other directly. -/
def adjacent (rules : List Rule) : Rule :=
  joined .adjacent rules

/-- This rule, or else the other one. -/
def either (rule other : Rule) : Rule :=
  choice [rule, other]

/-- This rule and then the other one, perhaps after blanks. -/
def followedBy (rule other : Rule) : Rule :=
  spaced [rule, other]

/-- This rule and directly after it the other one. -/
def directlyFollowedBy (rule other : Rule) : Rule :=
  adjacent [rule, other]

/-- A text as a rule: a single character stands for itself, anything else is a keyword. -/
def literal (text : String) : Rule :=
  match text.toList with
  | [c] => .char c
  | _ => .keyword text

instance : OrOp Rule := ⟨either⟩

instance : Add Rule := ⟨followedBy⟩

instance : Coe Char Rule := ⟨Rule.char⟩

instance : Coe String Rule := ⟨literal⟩

instance : Coe (List Rule) Rule := ⟨spaced⟩

instance : Coe Cell Rule := ⟨Rule.ref⟩

/-- If a list is related to what it becomes when one of its rules gives way to others, and so on step by step,
then it is related to what it becomes when all of them do. -/
theorem relates_flatMap (relates : List Rule → List Rule → Prop) (hrefl : ∀ rules, relates rules rules)
    (htrans : ∀ rules rules' rules'', relates rules rules' → relates rules' rules'' → relates rules rules'')
    {insert : Rule → List Rule} {rules : List Rule}
    (hone : ∀ rule ∈ rules, ∀ before after,
      relates (before ++ rule :: after) (before ++ insert rule ++ after)) (before : List Rule) :
    relates (before ++ rules) (before ++ rules.flatMap insert) := by
  -- What a rule has given way to belongs to what stands in front of the others.
  induction rules generalizing before with
  | nil => exact hrefl (before ++ [])
  | cons rule rules ih =>
      obtain ⟨hrule, hrules⟩ := List.forall_mem_cons.1 hone
      have hrest := ih hrules (before ++ insert rule)
      rw [List.append_assoc before _ (rules.flatMap insert)] at hrest
      exact htrans _ _ _ (hrule before rules) hrest

end RuleMatch.Rule
