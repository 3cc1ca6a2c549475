import RuleMatch.Proofs.Subrules
import RuleMatch.Rule.ListKind

/-!
# Flat rules

A rule is flat if no list in it, at whatever depth, has a list of its own kind among its elements.  Splicing
opens one level only, so a list that is put together flat is flat if its operands were: an operand of another
kind is kept and an operand of the same kind is opened, and in a flat operand there is nothing of the kind left
to open.  So every rule that is built without writing a list down as it stands is flat
(`lists_built_are_flat`).

What becomes of the operands is said by `ListKind.Spliced`, which reads the operands from left to right and does
not mention how they are put together.
-/

namespace RuleMatch

/-! ## Building rules -/

namespace Rule

/-- The rules that are built by anything but lists as they stand.  A character, a list of rules and a cell stand
for rules as well, by `char`, `spaced` and `ref`; a name or a mark put behind a rule is the one put around it. -/
inductive Built : Rule → Prop
  | terminal (t : Terminal) : Built (.terminal t)
  | literal (text : String) : Built (literal text)
  | ref (cell : Cell) : Built (.ref cell)
  | named (name : String) {body : Rule} (h : Built body) : Built (.named name body)
  | oneOrMore {body : Rule} (h : Built body) : Built (.oneOrMore body)
  | zeroOrMore {body : Rule} (h : Built body) : Built (.zeroOrMore body)
  | optional {body : Rule} (h : Built body) : Built (.optional body)
  | choice {rules : List Rule} (h : ∀ rule ∈ rules, Built rule) : Built (choice rules)
  | spaced {rules : List Rule} (h : ∀ rule ∈ rules, Built rule) : Built (spaced rules)
  | adjacent {rules : List Rule} (h : ∀ rule ∈ rules, Built rule) : Built (adjacent rules)
  | either {rule other : Rule} (h : Built rule) (h' : Built other) : Built (rule.either other)
  | followedBy {rule other : Rule} (h : Built rule) (h' : Built other) : Built (rule.followedBy other)
  | directlyFollowedBy {rule other : Rule} (h : Built rule) (h' : Built other) :
      Built (rule.directlyFollowedBy other)
  | or {rule other : Rule} (h : Built rule) (h' : Built other) : Built (rule ||| other)
  | add {rule other : Rule} (h : Built rule) (h' : Built other) : Built (rule + other)

/-- No list in the rule has a list of its own kind among its elements. -/
def IsFlat (rule : Rule) : Prop :=
  ∀ node ∈ rule.nodes, ∀ element ∈ node.children,
    element.listKind? = none ∨ element.listKind? ≠ node.listKind?

instance (rule : Rule) : Decidable rule.IsFlat :=
  inferInstanceAs (Decidable (∀ node ∈ rule.nodes, ∀ element ∈ node.children,
    element.listKind? = none ∨ element.listKind? ≠ node.listKind?))

/-- A rule is flat if its children are, and none of them is a list of its own kind. -/
theorem isFlat_iff {rule : Rule} :
    rule.IsFlat ↔ (∀ child ∈ rule.children, child.IsFlat) ∧
      ∀ child ∈ rule.children, child.listKind? = none ∨ child.listKind? ≠ rule.listKind? := by
  constructor
  · intro h
    refine ⟨?_, h rule rule.self_mem_nodes⟩
    intro child hchild node hnode
    exact h node (mem_nodes_trans hnode rule (mem_nodes_of_mem_children hchild))
  · rintro ⟨hchildren, hself⟩ node hnode
    rw [nodes_eq, List.mem_cons, mem_nodesAll] at hnode
    rcases hnode with rfl | ⟨child, hchild, hinside⟩
    · exact hself
    · exact hchildren child hchild node hinside

/-- A rule that is no list is flat if its children are. -/
theorem isFlat_of_children {rule : Rule} (hkind : rule.listKind? = none)
    (h : ∀ child ∈ rule.children, child.IsFlat) : rule.IsFlat := by
  rw [isFlat_iff, hkind]
  refine ⟨h, ?_⟩
  intro child _
  by_cases hnone : child.listKind? = none
  · exact .inl hnone
  · exact .inr hnone

end Rule

/-! ## Splicing -/

namespace ListKind

variable {kind : ListKind}

/-- What the operands of a list come to, from left to right: one of the same kind is opened, any other stays as it
is. -/
inductive Spliced (kind : ListKind) : List Rule → List Rule → Prop
  | nil : Spliced kind [] []
  | opened (inner : List Rule) {operands elements : List Rule} (h : Spliced kind operands elements) :
      Spliced kind (kind.list inner :: operands) (inner ++ elements)
  | kept {rule : Rule} (hrule : rule.listKind? ≠ some kind) {operands elements : List Rule}
      (h : Spliced kind operands elements) : Spliced kind (rule :: operands) (rule :: elements)

theorem spliced_flatMap (kind : ListKind) (rules : List Rule) :
    kind.Spliced rules (rules.flatMap kind.operands) := by
  induction rules with
  | nil => exact .nil
  | cons rule rules ih =>
      rw [List.flatMap_cons]
      by_cases hkind : rule.listKind? = some kind
      · obtain ⟨inner, rfl⟩ := exists_eq_list hkind
        rw [operands_list]
        exact .opened inner ih
      · rw [operands_of_ne hkind]
        exact .kept hkind ih

theorem Spliced.eq_flatMap {rules elements : List Rule} (h : kind.Spliced rules elements) :
    elements = rules.flatMap kind.operands := by
  induction h with
  | nil => rfl
  | opened inner _ ih => rw [List.flatMap_cons, operands_list, ih]
  | kept hrule _ ih => rw [List.flatMap_cons, operands_of_ne hrule, ih, List.singleton_append]

/-- A list put together flat has the elements that its operands come to. -/
theorem flat_eq_list_iff (kind : ListKind) {rules elements : List Rule} :
    kind.flat rules = kind.list elements ↔ kind.Spliced rules elements := by
  rw [flat_eq]
  constructor
  · intro h
    rw [← kind.list_injective h]
    exact kind.spliced_flatMap rules
  · intro h
    rw [h.eq_flatMap]

@[simp] theorem children_list (kind : ListKind) (rules : List Rule) : (kind.list rules).children = rules := by
  cases kind <;> rfl

/-- What a flat operand contributes is flat, and no list of the kind. -/
theorem isFlat_of_mem_operands {rule element : Rule} (h : rule.IsFlat) (helement : element ∈ kind.operands rule) :
    element.IsFlat ∧ (element.listKind? = none ∨ element.listKind? ≠ some kind) := by
  by_cases hkind : rule.listKind? = some kind
  · obtain ⟨inner, rfl⟩ := exists_eq_list hkind
    rw [operands_list] at helement
    rw [Rule.isFlat_iff, children_list, listKind?_list] at h
    exact ⟨h.1 element helement, h.2 element helement⟩
  · rw [operands_of_ne hkind, List.mem_singleton] at helement
    subst helement
    exact ⟨h, .inr hkind⟩

/-- So a list put together flat is flat if its operands are. -/
theorem isFlat_flat (kind : ListKind) {rules : List Rule} (h : ∀ rule ∈ rules, rule.IsFlat) :
    (kind.flat rules).IsFlat := by
  rw [flat_eq, Rule.isFlat_iff, children_list, listKind?_list]
  constructor
  · intro element helement
    obtain ⟨rule, hrule, hinside⟩ := List.mem_flatMap.1 helement
    exact (isFlat_of_mem_operands (h rule hrule) hinside).1
  · intro element helement
    obtain ⟨rule, hrule, hinside⟩ := List.mem_flatMap.1 helement
    exact (isFlat_of_mem_operands (h rule hrule) hinside).2

theorem isFlat_flat_pair (kind : ListKind) {rule other : Rule} (h : rule.IsFlat) (h' : other.IsFlat) :
    (kind.flat [rule, other]).IsFlat := by
  apply kind.isFlat_flat
  intro operand hoperand
  rcases List.mem_pair.1 hoperand with rfl | rfl
  · exact h
  · exact h'

end ListKind

namespace Rule

theorem isFlat_literal (text : String) : (literal text).IsFlat := by
  rw [literal]
  split
  · exact isFlat_of_children rfl (by simp)
  · exact isFlat_of_children rfl (by simp)

/-- Every way to build a rule keeps rules flat. -/
theorem Built.isFlat {rule : Rule} (h : rule.Built) : rule.IsFlat := by
  induction h with
  | terminal t => exact isFlat_of_children rfl (by simp)
  | literal text => exact isFlat_literal text
  | ref cell => exact isFlat_of_children rfl (by simp)
  | named name _ ih => exact isFlat_of_children rfl (by simpa using ih)
  | oneOrMore _ ih => exact isFlat_of_children rfl (by simpa using ih)
  | zeroOrMore _ ih => exact isFlat_of_children rfl (by simpa using ih)
  | optional _ ih => exact isFlat_of_children rfl (by simpa using ih)
  | choice _ ih => exact ListKind.isFlat_flat .choice ih
  | spaced _ ih => exact ListKind.isFlat_flat (.series .spaced) ih
  | adjacent _ ih => exact ListKind.isFlat_flat (.series .adjacent) ih
  | either _ _ ih ih' => exact ListKind.isFlat_flat_pair .choice ih ih'
  | or _ _ ih ih' => exact ListKind.isFlat_flat_pair .choice ih ih'
  | followedBy _ _ ih ih' => exact ListKind.isFlat_flat_pair (.series .spaced) ih ih'
  | add _ _ ih ih' => exact ListKind.isFlat_flat_pair (.series .spaced) ih ih'
  | directlyFollowedBy _ _ ih ih' => exact ListKind.isFlat_flat_pair (.series .adjacent) ih ih'

/-- A list among whose elements there is none of its own kind is left alone. -/
theorem flat_eq_list {kind : ListKind} {rules : List Rule} (h : ∀ rule ∈ rules, rule.listKind? ≠ some kind) :
    kind.flat rules = kind.list rules := by
  rw [kind.flat_eq_list_iff]
  induction rules with
  | nil => exact .nil
  | cons rule rules ih =>
      obtain ⟨hrule, hrules⟩ := List.forall_mem_cons.1 h
      exact .kept hrule (ih hrules)

theorem Built.flat {rules : List Rule} (h : ∀ rule ∈ rules, rule.Built) (kind : ListKind) :
    (kind.flat rules).Built := by
  cases kind with
  | choice => exact .choice h
  | series spacing =>
      cases spacing with
      | spaced => exact .spaced h
      | adjacent => exact .adjacent h

/-- A flat rule can be built, from the inside out. -/
theorem built_of_isFlat (rule : Rule) (h : rule.IsFlat) : rule.Built := by
  induction rule using induction_children with
  | step rule ih =>
      obtain ⟨hchildren, hkinds⟩ := isFlat_iff.1 h
      have hbuilt : ∀ child ∈ rule.children, child.Built := by
        intro child hchild
        exact ih child hchild (hchildren child hchild)
      cases hkind : rule.listKind? with
      | some kind =>
          obtain ⟨rules, rfl⟩ := ListKind.exists_eq_list hkind
          rw [ListKind.children_list] at hbuilt hkinds
          have hapart : ∀ element ∈ rules, element.listKind? ≠ some kind := by
            intro element helement hsame
            rcases hkinds element helement with hnone | hother
            · simp [hsame] at hnone
            · exact hother (hsame.trans hkind.symm)
          rw [← flat_eq_list hapart]
          exact .flat hbuilt kind
      | none =>
          cases rule with
          | terminal t => exact .terminal t
          | ref cell => exact .ref cell
          | named name body => exact .named name (hbuilt body (by simp))
          | oneOrMore body => exact .oneOrMore (hbuilt body (by simp))
          | zeroOrMore body => exact .zeroOrMore (hbuilt body (by simp))
          | optional body => exact .optional (hbuilt body (by simp))
          | oneOf alternatives => simp [listKind?] at hkind
          | series spacing parts => simp [listKind?] at hkind

/-- The rules that can be built without writing a list down as it stands are the flat ones: in none of their lists,
however deep, is there a list of the same kind among the elements.  Whatever the operands of a list are, its
elements are those of the operands of its kind and the other operands themselves, all in their order; and to put
two rules together is to make such a list of the two. -/
theorem lists_built_are_flat :
    (∀ rule : Rule, rule.Built ↔ rule.IsFlat) ∧
      (∀ (kind : ListKind) (rules elements : List Rule),
        kind.flat rules = kind.list elements ↔ kind.Spliced rules elements) ∧
      ∀ rule other : Rule,
        rule.either other = ListKind.choice.flat [rule, other] ∧
          (rule ||| other) = ListKind.choice.flat [rule, other] ∧
          rule.followedBy other = (ListKind.series .spaced).flat [rule, other] ∧
          rule + other = (ListKind.series .spaced).flat [rule, other] ∧
          rule.directlyFollowedBy other = (ListKind.series .adjacent).flat [rule, other] := by
  refine ⟨?_, ?_, fun _ _ => ⟨rfl, rfl, rfl, rfl, rfl⟩⟩
  · intro rule
    exact ⟨Built.isFlat, built_of_isFlat rule⟩
  · intro kind rules elements
    exact kind.flat_eq_list_iff

/-- Lists of three kinds inside each other, all flat; and one that was written down as it stands. -/
example :
    (Rule.digit + (.letter ||| (.char 'a' ||| .char 'b')) + .optional (.spaced [.spaced [.blank], .digit])).IsFlat ∧
      ¬ (Rule.optional (.series .spaced [.series .spaced [.blank], .digit])).IsFlat := by
  decide

end Rule

end RuleMatch
