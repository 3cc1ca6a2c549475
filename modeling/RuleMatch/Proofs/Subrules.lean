import Mathlib.Data.List.Basic
import RuleMatch.Grammar.Basic

/-!
# Rules inside rules

A rule is put together from its children, and they from theirs.  `Rule.nodes` lists everything that a rule
is put together from, and `induction_children` is the induction over it.  Matching a rule calls for its
children or, if it is a reference, for a definition: `Grammar.callees`.  Whatever is called for on the way
is listed by `Grammar.reachable`.
-/

namespace RuleMatch

namespace Rule

/-- The rules that a rule is directly put together from. -/
@[simp] def children : Rule → List Rule
  | .terminal _ => []
  | .named _ body => [body]
  | .oneOrMore body => [body]
  | .zeroOrMore body => [body]
  | .optional body => [body]
  | .oneOf alternatives => alternatives
  | .series _ parts => parts
  | .ref _ => []

theorem size_eq (rule : Rule) : rule.size = sizeAll rule.children + 1 := by
  cases rule <;> simp [size, sizeAll]

theorem size_le_sizeAll {rule : Rule} {rules : List Rule} (h : rule ∈ rules) :
    rule.size ≤ sizeAll rules := by
  induction rules with
  | nil => simp at h
  | cons first rules ih =>
      rw [sizeAll]
      rcases List.mem_cons.1 h with rfl | hrest
      · omega
      · have hle := ih hrest
        omega

theorem size_lt_of_mem_children {rule child : Rule} (h : child ∈ rule.children) :
    child.size < rule.size := by
  have hle := size_le_sizeAll h
  rw [rule.size_eq]
  omega

/-- What holds of a rule whenever it holds of its children holds of every rule. -/
theorem induction_children {motive : Rule → Prop}
    (step : ∀ rule : Rule, (∀ child ∈ rule.children, motive child) → motive rule) (rule : Rule) :
    motive rule :=
  step rule fun child _ => induction_children step child
termination_by rule.size
decreasing_by exact size_lt_of_mem_children ‹_›

mutual

/-- All rules that a rule is put together from, itself included. -/
def nodes : Rule → List Rule
  | .terminal t => [.terminal t]
  | .named name body => .named name body :: nodes body
  | .oneOrMore body => .oneOrMore body :: nodes body
  | .zeroOrMore body => .zeroOrMore body :: nodes body
  | .optional body => .optional body :: nodes body
  | .oneOf alternatives => .oneOf alternatives :: nodesAll alternatives
  | .series spacing parts => .series spacing parts :: nodesAll parts
  | .ref cell => [.ref cell]

/-- All rules that the rules of a list are put together from. -/
def nodesAll : List Rule → List Rule
  | [] => []
  | rule :: rules => nodes rule ++ nodesAll rules

end

theorem nodes_eq (rule : Rule) : rule.nodes = rule :: nodesAll rule.children := by
  cases rule <;> simp [nodes, nodesAll]

theorem self_mem_nodes (rule : Rule) : rule ∈ rule.nodes := by
  rw [nodes_eq]
  exact List.mem_cons_self

theorem mem_nodesAll {node : Rule} {rules : List Rule} :
    node ∈ nodesAll rules ↔ ∃ rule ∈ rules, node ∈ rule.nodes := by
  induction rules with
  | nil => simp [nodesAll]
  | cons rule rules ih => simp [nodesAll, ih]

/-- The nodes of a node are nodes. -/
theorem mem_nodes_trans {inner node : Rule} (h : inner ∈ node.nodes) (rule : Rule)
    (hnode : node ∈ rule.nodes) : inner ∈ rule.nodes := by
  induction rule using induction_children with
  | step rule ih =>
      rw [nodes_eq, List.mem_cons, mem_nodesAll] at hnode
      rcases hnode with rfl | ⟨child, hchild, hinside⟩
      · exact h
      · rw [nodes_eq, List.mem_cons, mem_nodesAll]
        exact .inr ⟨child, hchild, ih child hchild hinside⟩

theorem mem_nodes_of_mem_children {child rule : Rule} (h : child ∈ rule.children) :
    child ∈ rule.nodes := by
  rw [nodes_eq, List.mem_cons, mem_nodesAll]
  exact .inr ⟨child, h, child.self_mem_nodes⟩

theorem length_nodesAll {rules : List Rule} (h : ∀ rule ∈ rules, rule.nodes.length = rule.size) :
    (nodesAll rules).length = sizeAll rules := by
  induction rules with
  | nil => rfl
  | cons rule rules ih =>
      rw [nodesAll, sizeAll, List.length_append, h rule List.mem_cons_self,
        ih fun r hr => h r (List.mem_cons_of_mem rule hr)]

theorem length_nodes (rule : Rule) : rule.nodes.length = rule.size := by
  induction rule using induction_children with
  | step rule ih => rw [nodes_eq, size_eq, List.length_cons, length_nodesAll ih]

end Rule

namespace Grammar

variable {g : Grammar}

/-- The rules that matching a rule calls for. -/
@[simp] def callees (g : Grammar) : Rule → List Rule
  | .ref cell => (g.definition? cell).toList
  | rule => rule.children

/-- The rules that matching a rule can reach: its own nodes and those of all definitions. -/
def reachable (g : Grammar) (rule : Rule) : List Rule :=
  rule.nodes ++ Rule.nodesAll (g.definitions.toList.filterMap id)

theorem self_mem_reachable (rule : Rule) : rule ∈ g.reachable rule :=
  List.mem_append_left _ rule.self_mem_nodes

theorem length_reachable (rule : Rule) : (g.reachable rule).length = rule.size + g.size := by
  rw [reachable, List.length_append, Rule.length_nodes, size,
    Rule.length_nodesAll fun r _ => r.length_nodes]

theorem mem_definitions {cell : Cell} {rule : Rule} (h : g.definition? cell = some rule) :
    rule ∈ g.definitions.toList.filterMap id := by
  rw [definition?, Option.join_eq_some_iff] at h
  exact List.mem_filterMap.2 ⟨some rule, Array.mem_toList_iff.2 (Array.mem_of_getElem? h), rfl⟩

theorem definition_mem_reachable {cell : Cell} {rule : Rule} (h : g.definition? cell = some rule)
    (root : Rule) : rule ∈ g.reachable root :=
  List.mem_append_right _ (Rule.mem_nodesAll.2 ⟨rule, mem_definitions h, rule.self_mem_nodes⟩)

theorem node_mem_reachable {root rule node : Rule} (h : rule ∈ g.reachable root)
    (hnode : node ∈ rule.nodes) : node ∈ g.reachable root := by
  rcases List.mem_append.1 h with hroot | hdefs
  · exact List.mem_append_left _ (Rule.mem_nodes_trans hnode root hroot)
  · obtain ⟨definition, hdef, hinside⟩ := Rule.mem_nodesAll.1 hdefs
    exact List.mem_append_right _
      (Rule.mem_nodesAll.2 ⟨definition, hdef, Rule.mem_nodes_trans hnode definition hinside⟩)

/-- What is called for from a reachable rule is reachable. -/
theorem callee_mem_reachable {root rule callee : Rule} (h : rule ∈ g.reachable root)
    (hcallee : callee ∈ g.callees rule) : callee ∈ g.reachable root := by
  cases rule with
  | ref cell => exact definition_mem_reachable (Option.mem_toList.1 hcallee) root
  | _ => exact node_mem_reachable h (Rule.mem_nodes_of_mem_children hcallee)

end Grammar

end RuleMatch
