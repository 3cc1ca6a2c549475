import RuleMatch.Proofs.Calls

/-!
# Agreement of two ways to match

A construct is a function of how its callees are matched.  If two ways to match agree on the calls that the
construct makes, wherever the first of them ends, then the construct agrees with itself under the two:
`attempt_extends`.  The calls are made at the cursor itself, at the cursor pinned, or further on
(`Cursor.MayCall`), and nothing is asked of the two ways anywhere else.

The bounds of the two repetitions may differ.  A larger bound is as good as a smaller one, and so is any
bound above the number of characters ahead, since every round but the last moves the cursor.
-/

namespace RuleMatch

/-- Where a match that starts at `c` may match its callees. -/
def Cursor.MayCall (c d : Cursor) : Prop :=
  d = c ∨ d = c.pin ∨ d.ahead.length < c.ahead.length

namespace Cursor

variable {c d : Cursor} {run : Text}

theorem MayCall.refl (c : Cursor) : c.MayCall c := .inl rfl

theorem MayCall.length_le (h : c.MayCall d) : d.ahead.length ≤ c.ahead.length := by
  rcases h with rfl | rfl | hshorter
  · exact Nat.le_refl _
  · exact Nat.le_refl _
  · exact Nat.le_of_lt hshorter

theorem Passes.length_lt (h : c.Passes run d) (hne : d.offset ≠ c.offset) :
    d.ahead.length < c.ahead.length := by
  have hrun : run ≠ [] := by
    rintro rfl
    exact hne (by rw [h.eq_of_nil])
  have hpos := List.length_pos_iff.2 hrun
  have hlength := h.length_ahead
  omega

theorem Passes.mayCall (h : c.Passes run d) : c.MayCall d := by
  by_cases hoffset : d.offset = c.offset
  · exact .inl (h.frame.eq_of_offset hoffset)
  · exact .inr (.inr (h.length_lt hoffset))

theorem Passes.mayCall_pin (h : c.Passes run d) : c.MayCall d.pin := by
  by_cases hoffset : d.offset = c.offset
  · exact .inr (.inl (by rw [h.frame.eq_of_offset hoffset]))
  · exact .inr (.inr (h.length_lt hoffset))

end Cursor

section Constructs

variable {self self' : Rule → Matching} {allowed : Fault → Prop}

theorem repeated_extends {body : Rule} (hself : ∀ c, (self body c).Ensures allowed (Answers c))
    {start : Cursor} (hagree : ∀ d, start.MayCall d → (self body d).Extends (self' body d))
    {bound bound' : Nat} {run : Text} {c : Cursor} (hstart : start.Passes run c)
    (hbound : bound ≤ bound' ∨ c.ahead.length < bound') :
    (repeated self body bound c).Extends (repeated self' body bound' c) := by
  induction bound generalizing bound' run c with
  | zero => exact Outcome.Extends.of_unfinished
  | succ bound ih =>
      cases bound' with
      | zero => omega
      | succ bound' =>
          unfold repeated
          apply (hagree c hstart.mayCall).andThen (hself c)
          intro verdict stop hanswer
          obtain ⟨more, hmore⟩ := hanswer.passes
          cases verdict with
          | ok text =>
              dsimp only
              split
              · exact Outcome.Extends.refl _
              · next hmoved =>
                  -- The round has taken one from the bound, but also one character at least.
                  have hshorter := hmore.length_lt hmoved
                  exact (ih (hstart.trans hmore) (by omega)).andThen_same _
          | error failure => exact Outcome.Extends.refl _

theorem firstMatch_extends {rules : List Rule}
    (hself : ∀ rule ∈ rules, ∀ c, (self rule c).Ensures allowed (Answers c)) {c : Cursor}
    (hagree : ∀ rule ∈ rules, (self rule c).Extends (self' rule c)) (mark index : Nat) :
    (firstMatch self mark index rules c).Extends (firstMatch self' mark index rules c) := by
  induction rules generalizing index with
  | nil => exact Outcome.Extends.refl _
  | cons rule rules ih =>
      obtain ⟨hrule, hrules⟩ := List.forall_mem_cons.1 hself
      obtain ⟨hfirst, hrest⟩ := List.forall_mem_cons.1 hagree
      unfold firstMatch
      apply hfirst.andThen (hrule c)
      intro verdict stop hanswer
      cases verdict with
      | ok text => exact Outcome.Extends.refl _
      | error failure =>
          obtain rfl : stop = c := hanswer
          exact (ih hrules hrest (index + 1)).after _

theorem laterPart_extends {part : Rule} {start : Cursor}
    (hagree : ∀ d, start.MayCall d → (self part d).Extends (self' part d)) (spacing : Spacing)
    {run : Text} {c : Cursor} (hstart : start.Passes run c) :
    (laterPart self spacing part c).Extends (laterPart self' spacing part c) := by
  cases spacing with
  | spaced => exact hagree c.skipBlanks.2 (hstart.trans (Cursor.passes_skipBlanks c)).mayCall
  | adjacent => exact (hagree c.pin hstart.mayCall_pin).andThen_same _

theorem laterParts_extends {parts : List Rule}
    (hself : ∀ part ∈ parts, ∀ c, (self part c).Ensures allowed (Answers c)) {start : Cursor}
    (hagree : ∀ part ∈ parts, ∀ d, start.MayCall d → (self part d).Extends (self' part d))
    (spacing : Spacing) (mark textStart index : Nat) {run : Text} {c : Cursor}
    (hstart : start.Passes run c) :
    (laterParts self spacing mark textStart index parts c).Extends
      (laterParts self' spacing mark textStart index parts c) := by
  induction parts generalizing index run c with
  | nil => exact Outcome.Extends.refl _
  | cons part parts ih =>
      obtain ⟨hpart, hparts⟩ := List.forall_mem_cons.1 hself
      obtain ⟨hfirst, hrest⟩ := List.forall_mem_cons.1 hagree
      unfold laterParts
      apply (laterPart_extends hfirst spacing hstart).andThen (laterPart_ensures hpart spacing c)
      rintro verdict stop ⟨more, hmore⟩
      cases verdict with
      | ok text =>
          exact ih hparts hrest (index + 1) (hstart.trans hmore)
      | error cause => exact Outcome.Extends.refl _

theorem matchSeries_extends {parts : List Rule}
    (hself : ∀ part ∈ parts, ∀ c, (self part c).Ensures allowed (Answers c)) {c : Cursor}
    (hagree : ∀ part ∈ parts, ∀ d, c.MayCall d → (self part d).Extends (self' part d))
    (spacing : Spacing) :
    (matchSeries self spacing parts c).Extends (matchSeries self' spacing parts c) := by
  cases parts with
  | nil => exact Outcome.Extends.refl _
  | cons first others =>
      obtain ⟨hpart, hparts⟩ := List.forall_mem_cons.1 hself
      obtain ⟨hfirst, hrest⟩ := List.forall_mem_cons.1 hagree
      apply (hfirst c (Cursor.MayCall.refl c)).andThen (hpart c)
      intro verdict stop hanswer
      obtain ⟨run, hrun⟩ := hanswer.passes
      cases verdict with
      | ok text =>
          dsimp only
          split
          · exact laterParts_extends hparts hrest spacing _ _ 1 hrun
          · exact Outcome.Extends.refl _
      | error cause => exact Outcome.Extends.refl _

end Constructs

theorem Matching.restoring_extends {attempt attempt' : Matching} {c : Cursor}
    (h : (attempt c).Extends (attempt' c)) :
    (Matching.restoring attempt c).Extends (Matching.restoring attempt' c) :=
  h.andThen_same _

namespace Grammar

variable {g : Grammar}

/-- An attempt does not tell apart two ways to match that agree on its calls. -/
theorem attempt_extends {self self' : Rule → Matching} {allowed : Fault → Prop} {rule : Rule}
    {c : Cursor} {bound bound' : Nat}
    (hself : ∀ callee ∈ g.callees rule, ∀ d, (self callee d).Ensures allowed (Answers d))
    (hagree : ∀ callee ∈ g.callees rule, ∀ d, c.MayCall d →
      (self callee d).Extends (self' callee d))
    (hbound : bound ≤ bound' ∨ c.ahead.length < bound') :
    (g.attempt bound self rule c).Extends (g.attempt bound' self' rule c) := by
  have hhere := Cursor.MayCall.refl c
  cases rule with
  | terminal t => exact Outcome.Extends.refl _
  | named name body => exact hagree body (by simp) c hhere
  | oneOrMore body =>
      exact (repeated_extends (hself body (by simp)) (hagree body (by simp))
        (Cursor.Passes.refl c) hbound).andThen_same _
  | zeroOrMore body =>
      exact (repeated_extends (hself body (by simp)) (hagree body (by simp))
        (Cursor.Passes.refl c) hbound).andThen_same _
  | optional body => exact (hagree body (by simp) c hhere).andThen_same _
  | oneOf alternatives =>
      exact (firstMatch_extends hself (fun r hr => hagree r hr c hhere) c.offset 0).andThen_same _
  | series spacing parts => exact matchSeries_extends hself hagree spacing
  | ref cell =>
      cases hdef : g.definition? cell with
      | some definition =>
          simp only [attempt, require_eq_ok hdef]
          exact hagree definition (by simp [hdef]) c hhere
      | none =>
          simp only [attempt, require_eq_error hdef]
          exact Outcome.Extends.refl _

theorem anyCan_extends {self self' : Rule → Looking} {allowed : Fault → Prop} {rules : List Rule}
    {c : Cursor}
    (hself : ∀ rule ∈ rules, ∀ c, (self rule c).Ensures allowed fun _ stop => stop = c)
    (hagree : ∀ rule ∈ rules, (self rule c).Extends (self' rule c)) :
    (anyCan self rules c).Extends (anyCan self' rules c) := by
  induction rules with
  | nil => exact Outcome.Extends.refl _
  | cons rule rules ih =>
      obtain ⟨hrule, hrules⟩ := List.forall_mem_cons.1 hself
      obtain ⟨hfirst, hrest⟩ := List.forall_mem_cons.1 hagree
      unfold anyCan
      apply hfirst.andThen (hrule c)
      rintro can stop rfl
      split
      · exact Outcome.Extends.refl _
      · exact ih hrules hrest

/-- Looking ahead asks its callees at the cursor itself. -/
theorem look_extends {self self' : Rule → Looking} {allowed : Fault → Prop} {rule : Rule} {c : Cursor}
    (hself : ∀ callee ∈ g.callees rule, ∀ d,
      (self callee d).Ensures allowed fun _ stop => stop = d)
    (hagree : ∀ callee ∈ g.callees rule, (self callee c).Extends (self' callee c)) :
    (g.look self rule c).Extends (g.look self' rule c) := by
  cases rule with
  | terminal t => exact Outcome.Extends.refl _
  | named name body => exact hagree body (by simp)
  | oneOrMore body => exact hagree body (by simp)
  | zeroOrMore body => exact Outcome.Extends.refl _
  | optional body => exact Outcome.Extends.refl _
  | oneOf alternatives => exact anyCan_extends hself hagree
  | series spacing parts =>
      cases parts with
      | nil => exact Outcome.Extends.refl _
      | cons first others => exact hagree first (by simp)
  | ref cell =>
      cases hdef : g.definition? cell with
      | some definition =>
          simp only [look, require_eq_ok hdef]
          exact hagree definition (by simp [hdef])
      | none =>
          simp only [look, require_eq_error hdef]
          exact Outcome.Extends.refl _

/-! ## Larger bounds -/

/-- A larger bound does not change what a match comes to. -/
theorem matchWithin_extends {bound bound' : Nat} (h : bound ≤ bound') (rule : Rule) (c : Cursor) :
    (g.matchWithin bound rule c).Extends (g.matchWithin bound' rule c) := by
  induction bound generalizing bound' rule c with
  | zero => exact Outcome.Extends.of_unfinished
  | succ bound ih =>
      obtain ⟨more, rfl⟩ := Nat.exists_eq_add_of_le' (Nat.lt_of_lt_of_le (Nat.succ_pos bound) h)
      have hle : bound ≤ more := by omega
      apply Matching.restoring_extends
      apply attempt_extends (fun callee _ d => g.matchWithin_ensures bound callee d) _ (.inl hle)
      intro callee _ d _
      exact ih hle callee d

/-- A larger bound does not change what looking ahead comes to. -/
theorem mayMatchWithin_extends {bound bound' : Nat} (h : bound ≤ bound') (rule : Rule) (c : Cursor) :
    (g.mayMatchWithin bound rule c).Extends (g.mayMatchWithin bound' rule c) := by
  induction bound generalizing bound' rule c with
  | zero => exact Outcome.Extends.of_unfinished
  | succ bound ih =>
      obtain ⟨more, rfl⟩ := Nat.exists_eq_add_of_le' (Nat.lt_of_lt_of_le (Nat.succ_pos bound) h)
      have hle : bound ≤ more := by omega
      apply look_extends fun callee _ d => g.mayMatchWithin_ensures bound callee d
      intro callee _
      exact ih hle callee c

end Grammar

end RuleMatch
