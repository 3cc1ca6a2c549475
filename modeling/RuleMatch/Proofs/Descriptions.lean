import RuleMatch.Proofs.Alternatives
import RuleMatch.Proofs.Contexts
import RuleMatch.Proofs.Splicing
import RuleMatch.Rule.ListKind

/-!
# Descriptions of spliced lists

A list is described by the descriptions of its rules, with a separator between them.  A list of the same kind
among the rules is described in the same way, so its description may be replaced by those of its rules.  An empty
list is the exception: its description is empty, but separators stand around it.  Where the separator is empty
itself, this does not show either.

So splicing does not change the description of a list, and then not that of any rule around it: both the list that
was spliced and the one that was not take parentheses in front of a mark (`DescribedAlike.fill`).  A failure says
of rules nothing but their descriptions.  If the two lists stand in one and the same context, then the matches
come to the same, down to the rule that a failed repetition names; only a choice says of each of its own
alternatives that it was tried (`splicing_changes_no_description`).
-/

namespace RuleMatch

/-! ## Words with separators between them -/

/-- In a row of words with separators between them, words may be exchanged for others that make the same row. -/
theorem intercalate_around {separator : String} {words words' : List String} (hwords : words ≠ [])
    (hwords' : words' ≠ []) (h : separator.intercalate words = separator.intercalate words')
    (before after : List String) :
    separator.intercalate (before ++ words ++ after) = separator.intercalate (before ++ words' ++ after) := by
  have hfront : separator.intercalate (before ++ words) = separator.intercalate (before ++ words') := by
    by_cases hbefore : before = []
    · simpa [hbefore] using h
    · rw [String.intercalate_append_of_ne_nil hbefore hwords,
        String.intercalate_append_of_ne_nil hbefore hwords', h]
  by_cases hafter : after = []
  · simpa [hafter] using hfront
  · rw [String.intercalate_append_of_ne_nil (by simp [hwords]) hafter,
      String.intercalate_append_of_ne_nil (by simp [hwords']) hafter, hfront]

/-- Words without separators between them are put one after the other. -/
theorem intercalate_empty_append (words others : List String) :
    "".intercalate (words ++ others) = "".intercalate words ++ "".intercalate others := by
  by_cases hwords : words = []
  · simp [hwords]
  · by_cases hothers : others = []
    · simp [hothers]
    · rw [String.intercalate_append_of_ne_nil hwords hothers, String.append_empty]

/-! ## Rules that are described alike -/

namespace Rule

/-- Two rules with the same description, which both take parentheses in front of a mark or both do not. -/
structure DescribedAlike (rule rule' : Rule) : Prop where
  describe_eq : rule.describe = rule'.describe
  isList_eq : rule.isList = rule'.isList

namespace DescribedAlike

variable {rule rule' rule'' : Rule}

theorem refl (rule : Rule) : rule.DescribedAlike rule := ⟨rfl, rfl⟩

theorem trans (h : rule.DescribedAlike rule') (h' : rule'.DescribedAlike rule'') :
    rule.DescribedAlike rule'' :=
  ⟨h.describe_eq.trans h'.describe_eq, h.isList_eq.trans h'.isList_eq⟩

/-- What is described alike is described alike in every context. -/
theorem fill (h : rule.DescribedAlike rule') (context : RuleContext) :
    (context.fill rule).DescribedAlike (context.fill rule') := by
  induction context with
  | hole => exact h
  | named name body ih => exact ⟨rfl, rfl⟩
  | oneOrMore body ih =>
      refine ⟨?_, rfl⟩
      rw [RuleContext.fill, RuleContext.fill, describe, describe, ih.describe_eq, ih.isList_eq]
  | zeroOrMore body ih =>
      refine ⟨?_, rfl⟩
      rw [RuleContext.fill, RuleContext.fill, describe, describe, ih.describe_eq, ih.isList_eq]
  | optional body ih =>
      refine ⟨?_, rfl⟩
      rw [RuleContext.fill, RuleContext.fill, describe, describe, ih.describe_eq, ih.isList_eq]
  | oneOf before alternative after ih =>
      refine ⟨?_, rfl⟩
      rw [RuleContext.fill, RuleContext.fill, describe, describe, describeAll_append, describeAll_append,
        describeAll, describeAll, ih.describe_eq]
  | series spacing before part after ih =>
      refine ⟨?_, rfl⟩
      rw [RuleContext.fill, RuleContext.fill, describe, describe, describeAll_append, describeAll_append,
        describeAll, describeAll, ih.describe_eq]

end DescribedAlike

theorem describeAll_eq_nil_iff {rules : List Rule} : describeAll rules = [] ↔ rules = [] := by
  rw [← List.length_eq_zero_iff, length_describeAll, List.length_eq_zero_iff]

end Rule

/-! ## Splicing -/

namespace ListKind

variable {kind : ListKind}

/-- A list among the rules of a list of the same kind may be spliced in, unless separators around nothing would
show. -/
theorem describedAlike_splice {inner : List Rule} (h : inner ≠ [] ∨ kind = .series .adjacent)
    (before after : List Rule) :
    (kind.list (before ++ [kind.list inner] ++ after)).DescribedAlike (kind.list (before ++ inner ++ after)) := by
  refine ⟨?_, by simp⟩
  rw [describe_list, describe_list]
  simp only [Rule.describeAll_append, Rule.describeAll, describe_list]
  rcases h with hinner | rfl
  · apply intercalate_around (by simp) (by simpa [Rule.describeAll_eq_nil_iff] using hinner)
    rw [String.intercalate_singleton]
  · show "".intercalate (_ ++ ["".intercalate _] ++ _) = "".intercalate (_ ++ _ ++ _)
    simp only [intercalate_empty_append, String.intercalate_singleton]

/-- So a list put together flat is described as it would be if it stood there as it is. -/
theorem describedAlike_flat {rules : List Rule} (h : kind.list [] ∉ rules ∨ kind = .series .adjacent) :
    (kind.list rules).DescribedAlike (kind.flat rules) := by
  rw [flat_eq]
  refine Rule.relates_flatMap (fun rules rules' => (kind.list rules).DescribedAlike (kind.list rules'))
    (fun rules => .refl (kind.list rules)) (fun _ _ _ => .trans) ?_ []
  intro rule hrule before after
  by_cases hkind : rule.listKind? = some kind
  · obtain ⟨inner, rfl⟩ := exists_eq_list hkind
    rw [operands_list, List.append_cons]
    refine describedAlike_splice (h.imp_left ?_) before after
    rintro hempty rfl
    exact hempty hrule
  · rw [operands_of_ne hkind, List.append_assoc]
    exact .refl _

end ListKind

/-! ## Failures -/

/-- Two failures with the same innermost failure, but for what a choice says it has tried. -/
def Failure.SameButTried (failure failure' : Failure) : Prop :=
  failure.innermost = failure'.innermost ∨
    ∃ tried tried' offset, failure.innermost = .noAlternative tried offset ∧
      failure'.innermost = .noAlternative tried' offset

/-- Two runs from one cursor, of rules that are described alike. -/
def sameDescriptions : Correspondence where
  toCursorPairing := .same
  rules rule rule' := rule.describe = rule'.describe
  failures := Failure.SameButTried
  faults := Eq
  logs _ _ := True
  read := by
    rintro terminal c _ rfl
    exact ⟨.of_refl (fun _ => .inl rfl) _, rfl⟩
  faults_refl _ := rfl
  noneRepeated := by
    rintro body body' c _ hbody rfl
    exact .inl (by rw [hbody])
  noAlternative := by
    rintro alternatives alternatives' c _ halternatives rfl
    have htried : Rule.describeAll alternatives = Rule.describeAll alternatives' := by
      induction halternatives with
      | nil => rfl
      | cons hrule _ ih => rw [Rule.describeAll, Rule.describeAll, hrule, ih]
    exact .inl (by rw [htried])
  partFailed _ _ _ hcause := hcause
  logs_nil := trivial
  logs_append _ _ := trivial
  logs_repetitionStopped _ _ _ := trivial
  logs_alternativeFailed _ _ _ _ _ _ _ _ _ _ := trivial
  logs_choiceFailed _ := trivial
  logs_partFailed _ _ _ _ _ _ _ := trivial

section Runs

variable {c : Cursor} {outcome outcome' : Outcome Verdict}

/-- Two matches say the same but for what a choice has tried: they come to the same text at the same place, or to
failures that differ in nothing else. -/
def Outcome.SameButTried (outcome outcome' : Outcome Verdict) : Prop :=
  outcome.Related
    (fun verdict stop verdict' stop' => SameVerdict Failure.SameButTried verdict verdict' ∧ stop' = stop) outcome'

/-- Answers of two matches that say the same correspond. -/
theorem Outcome.SameButTried.corresponds {allowed allowed' : Fault → Prop} (h : outcome.SameButTried outcome')
    (hleft : outcome.Ensures allowed (Answers c)) (hright : outcome'.Ensures allowed' (Answers c)) :
    outcome.Corresponds sameDescriptions (sameDescriptions.Answer c c) outcome' := by
  cases h with
  | finished hsame log log' =>
      obtain ⟨hverdicts, hstop⟩ := hsame
      exact .finished ⟨hleft, hright, hverdicts, hstop.symm⟩ trivial
  | faulted fault log log' => exact .faulted rfl trivial
  | unfinished => exact .unfinished

theorem Outcome.Corresponds.sameButTried
    (h : outcome.Corresponds sameDescriptions (sameDescriptions.Answer c c) outcome') :
    outcome.SameButTried outcome' := by
  cases h with
  | finished hanswer _ =>
      obtain rfl := hanswer.cursors
      exact .finished ⟨hanswer.verdicts, rfl⟩ _ _
  | faulted hfault _ =>
      obtain rfl := hfault
      exact .faulted _ _ _
  | unfinished => exact .unfinished
  | broken hbroken _ => exact absurd hbroken (BreaksOff.not_never outcome)

end Runs

namespace Grammar

/-- A list that is not empty is matched alike where it stands and where it was spliced in. -/
theorem sameButTried_splice (g : Grammar) (kind : ListKind) {inner : List Rule} (h : inner ≠ [])
    (before after : List Rule) (c : Cursor) :
    (g.matchAt (kind.list (before ++ [kind.list inner] ++ after)) c).SameButTried
      (g.matchAt (kind.list (before ++ inner ++ after)) c) := by
  cases kind with
  | choice =>
      refine ((g.chooseAlike_splice before inner after).matchAt c).mono ?_
      intro verdict stop verdict' stop' hsame
      cases hsame with
      | ok text stop => exact ⟨.ok text, rfl⟩
      | none => exact ⟨.error (.inr ⟨_, _, c.offset, rfl, rfl⟩), rfl⟩
  | series spacing =>
      have halike : (g.matchAt (.series spacing (before ++ [.series spacing inner] ++ after)) c).Alike
          (g.matchAt (.series spacing (before ++ inner ++ after)) c) := g.matchAt_splice spacing (.inl h) c
      refine halike.mono ?_
      rintro verdict stop verdict' stop' ⟨hsame, hstop⟩
      cases hsame with
      | ok text => exact ⟨.ok text, hstop⟩
      | error hcause => exact ⟨.error (.inl hcause.innermost_eq), hstop⟩

/-- In every context, too. -/
theorem sameButTried_fill (g : Grammar) {rule rule' : Rule} (hdescribed : rule.DescribedAlike rule')
    (h : ∀ c, (g.matchAt rule c).SameButTried (g.matchAt rule' c)) (context : RuleContext) (c : Cursor) :
    (g.matchAt (context.fill rule) c).SameButTried (g.matchAt (context.fill rule') c) := by
  have hmatches : sameDescriptions.Matches (g.matchAt rule) (g.matchAt rule') := by
    rintro c _ rfl
    exact (h c).corresponds (g.matchAt_ensures rule c) (g.matchAt_ensures rule' c)
  have hfill : sameDescriptions.Matches (g.matchAt (context.fill rule)) (g.matchAt (context.fill rule')) :=
    matches_fill_of (fun _ => rfl) (fun context => (hdescribed.fill context).describe_eq) hmatches context
  exact (hfill rfl).sameButTried

/-- A repetition that fails says how its body is described, and where it was tried. -/
theorem failure_of_oneOrMore {g : Grammar} {body : Rule} {c : Cursor} {failure : Failure}
    (h : (g.matchAt (.oneOrMore body) c).value? = some (.error failure)) :
    failure = .noneRepeated body.describe c.offset := by
  have hsays : (g.matchAt (.oneOrMore body) c).Ensures (fun fault => ∃ name, fault = .undefinedRule name)
      fun verdict _ => ∀ failure, verdict = .error failure → failure = .noneRepeated body.describe c.offset := by
    rw [matchAt_oneOrMore]
    apply (repeated_ensures (g.matchAt_ensures body) (c.ahead.length + 1) c).andThen
    rintro count stop ⟨run, hrun⟩
    by_cases hcount : count = 0
    · rw [if_pos hcount]
      rintro _ ⟨⟩
      rfl
    · rw [if_neg hcount, Matching.upTo_offset hrun]
      rintro _ ⟨⟩
  obtain ⟨stop, log, hfinished⟩ := Outcome.value?_eq_some_iff.1 h
  rw [hfinished] at hsays
  exact hsays failure rfl

/-- A list of some kind may be spliced into one of the same kind without a change to the description, be it of that
list or of any rule around it; in front of a mark both take parentheses.  The spliced list must not be empty, unless
nothing stands between the descriptions.  A repetition of any rule around the list fails with the same words in both
cases.  If the list was not empty, then all matches come to the same in every context, with no other difference in a
failure than what a choice has tried.  So a list that was put together flat is described as it was written. -/
theorem splicing_changes_no_description (kind : ListKind) :
    (∀ before inner after : List Rule, (inner ≠ [] ∨ kind = .series .adjacent) →
      let nested := kind.list (before ++ [kind.list inner] ++ after)
      let spliced := kind.list (before ++ inner ++ after)
      (∀ context : RuleContext, (context.fill nested).describe = (context.fill spliced).describe) ∧
        (∀ rule ∈ [nested, spliced],
          rule.describe = spliced.describe ∧
            (Rule.oneOrMore rule).describe = "(" ++ spliced.describe ++ ")" ++ "+" ∧
            (Rule.zeroOrMore rule).describe = "(" ++ spliced.describe ++ ")" ++ "*" ∧
            (Rule.optional rule).describe = "(" ++ spliced.describe ++ ")" ++ "?") ∧
        (∀ (g : Grammar) (context : RuleContext) (c : Cursor), ∀ rule ∈ [nested, spliced], ∀ failure,
          (g.matchAt (.oneOrMore (context.fill rule)) c).value? = some (.error failure) →
            failure = .noneRepeated (context.fill spliced).describe c.offset) ∧
        (inner ≠ [] → ∀ (g : Grammar) (context : RuleContext) (c : Cursor),
          (g.matchAt (context.fill nested) c).SameButTried (g.matchAt (context.fill spliced) c))) ∧
      ∀ rules : List Rule, (kind.list [] ∉ rules ∨ kind = .series .adjacent) →
        ∀ context : RuleContext,
          (context.fill (kind.flat rules)).describe = (context.fill (kind.list rules)).describe := by
  constructor
  · intro before inner after h nested spliced
    have hsplice : nested.DescribedAlike spliced := kind.describedAlike_splice h before after
    have hboth : ∀ rule ∈ [nested, spliced], rule.DescribedAlike spliced := by
      intro rule hrule
      rcases List.mem_pair.1 hrule with rfl | rfl
      · exact hsplice
      · exact .refl spliced
    have hlist : spliced.isList = true := kind.isList_list _
    refine ⟨fun context => (hsplice.fill context).describe_eq, ?_, ?_, ?_⟩
    · intro rule hrule
      have halike := hboth rule hrule
      have hrulelist : rule.isList = true := halike.isList_eq.trans hlist
      simp only [Rule.describe, hrulelist, halike.describe_eq, Rule.grouped, if_true, and_self]
    · intro g context c rule hrule failure hfailure
      rw [failure_of_oneOrMore hfailure, ((hboth rule hrule).fill context).describe_eq]
    · intro hinner g context c
      exact g.sameButTried_fill hsplice (g.sameButTried_splice kind hinner before after) context c
  · intro rules h context
    exact ((kind.describedAlike_flat h).fill context).describe_eq.symm

/-- A choice inside a choice, in front of a digit: the letters that are missing are named alike. -/
theorem unseen_choice_in_repetition :
    let nested := Rule.oneOf [.char 'a', .oneOf [.char 'b', .char 'c']]
    let spliced := Rule.oneOf [.char 'a', .char 'b', .char 'c']
    (Rule.optional nested).describe = "('a' | 'b' | 'c')?" ∧
      (Rule.choice [.char 'a', .oneOf [.char 'b', .char 'c']]).describe = nested.describe ∧
      ∀ rule ∈ [nested, spliced], ∃ failure,
        (matchAt {} (.oneOrMore (.series .spaced [rule, .digit])) (Cursor.start ['1'] {})).value?
            = some (.error failure) ∧
          failure = .noneRepeated "'a' | 'b' | 'c' [0-9]" 0 := by
  intro nested spliced
  obtain ⟨hsplice, hflat⟩ := splicing_changes_no_description .choice
  obtain ⟨-, hmarks, hfails, -⟩ := hsplice [.char 'a'] [.char 'b', .char 'c'] [] (.inl (by simp))
  obtain ⟨-, -, -, hoption⟩ := hmarks nested (by simp [nested, ListKind.list])
  refine ⟨hoption, hflat [.char 'a', .oneOf [.char 'b', .char 'c']] (.inl (by simp [ListKind.list])) .hole, ?_⟩
  intro rule hrule
  have hfailed : ∀ rule ∈ [nested, spliced], ∃ failure,
      (matchAt {} (.oneOrMore (.series .spaced [rule, .digit])) (Cursor.start ['1'] {})).value?
        = some (.error failure) := by
    intro rule hrule
    rcases List.mem_pair.1 hrule with rfl | rfl
    · exact ⟨.noneRepeated "'a' | 'b' | 'c' [0-9]" 0, by decide +kernel⟩
    · exact ⟨.noneRepeated "'a' | 'b' | 'c' [0-9]" 0, by decide +kernel⟩
  obtain ⟨failure, hfailure⟩ := hfailed rule hrule
  refine ⟨failure, hfailure, ?_⟩
  exact hfails {} (.series .spaced [] .hole [.digit]) (Cursor.start ['1'] {}) rule hrule failure hfailure

end Grammar

end RuleMatch
