import RuleMatch.Proofs.Budget
import RuleMatch.Proofs.Correspondence
import RuleMatch.Proofs.WordLists

/-!
# Rules in contexts

A rule is matched for the sake of another, and what the other makes of it depends on whether it matched, on
its text and on where it ended, and on nothing else: not on why it failed, and not on what a look ahead would
have said.  So two rules that match alike may stand for each other anywhere in a rule
(`matching_is_compositional`).  A cell and its definition are such rules, and a reference may be unfolded.

Matching alike is a matter of cursors that are the same (`sameReading`).  What a rule of some shape makes of
callees that match alike is settled by `attempt_corresponds`; a context is such a shape around the hole, and
then another around that.
-/

namespace RuleMatch

/-! ## Contexts -/

/-- A rule with a hole in it. -/
inductive RuleContext where
  | hole
  | named (name : String) (body : RuleContext)
  | oneOrMore (body : RuleContext)
  | zeroOrMore (body : RuleContext)
  | optional (body : RuleContext)
  | oneOf (before : List Rule) (alternative : RuleContext) (after : List Rule)
  | series (spacing : Spacing) (before : List Rule) (part : RuleContext) (after : List Rule)

/-- The rule with another in place of the hole. -/
def RuleContext.fill : RuleContext → Rule → Rule
  | .hole, rule => rule
  | .named name body, rule => .named name (body.fill rule)
  | .oneOrMore body, rule => .oneOrMore (body.fill rule)
  | .zeroOrMore body, rule => .zeroOrMore (body.fill rule)
  | .optional body, rule => .optional (body.fill rule)
  | .oneOf before alternative after, rule => .oneOf (before ++ alternative.fill rule :: after)
  | .series spacing before part after, rule => .series spacing (before ++ part.fill rule :: after)

/-- Two readings that are the same, but for the fault. -/
inductive Reading.SameKind : Reading → Reading → Prop
  | matched (text : Text) (stop : Nat) : SameKind (.matched text stop) (.matched text stop)
  | failed : SameKind .failed .failed
  | faulted (fault fault' : Fault) : SameKind (.faulted fault) (.faulted fault')
  | unfinished : SameKind .unfinished .unfinished

theorem Reading.SameKind.refl (reading : Reading) : reading.SameKind reading := by
  cases reading with
  | matched text stop => exact .matched text stop
  | failed => exact .failed
  | faulted fault => exact .faulted fault fault
  | unfinished => exact .unfinished

namespace Grammar

/-- Wherever a cursor with these settings stands, the two rules match the same text up to the same offset, or
both fail, or both meet a fault, or neither match ends. -/
def MatchEquivalent (g : Grammar) (settings : Settings) (rule rule' : Rule) : Prop :=
  ∀ c : Cursor, c.settings = settings → (g.matchAt rule c).reading.SameKind (g.matchAt rule' c).reading

end Grammar

/-! ## Runs from the same cursor -/

/-- Two runs from one cursor, of which only the cursors and the texts are compared. -/
def sameReading (settings : Settings) : Correspondence where
  cursors c c' := c = c' ∧ c.settings = settings
  rules _ _ := True
  failures _ _ := True
  faults _ _ := True
  logs _ _ := True
  ahead_eq h := by rw [h.1]
  pin := by
    rintro c _ ⟨rfl, hsettings⟩
    exact ⟨rfl, hsettings⟩
  repin := by
    rintro c _ d _ ⟨rfl, -⟩ ⟨rfl, hsettings⟩
    exact ⟨rfl, hsettings⟩
  skipBlanks := by
    rintro c _ ⟨rfl, hsettings⟩
    exact ⟨rfl, (Cursor.sameFrame_skipBlanks c).settings_eq.trans hsettings⟩
  read := by
    rintro terminal c _ ⟨rfl, hsettings⟩
    refine ⟨?_, rfl, (terminal.attempts_read c).sameFrame.settings_eq.trans hsettings⟩
    cases (terminal.read c).1 with
    | ok text => exact .ok text
    | error failure => exact .error trivial
  faults_refl _ := trivial
  noneRepeated _ _ := trivial
  noAlternative _ _ := trivial
  partFailed _ _ _ _ := trivial
  logs_nil := trivial
  logs_append _ _ := trivial
  logs_repetitionStopped _ _ _ := trivial
  logs_alternativeFailed _ _ _ _ _ _ _ _ _ _ := trivial
  logs_choiceFailed _ := trivial
  logs_partFailed _ _ _ _ _ _ _ := trivial

section Readings

variable {settings : Settings} {c : Cursor} {outcome outcome' : Outcome Verdict}

/-- Corresponding answers have readings of one kind. -/
theorem Outcome.Corresponds.sameKind
    (h : outcome.Corresponds (sameReading settings) ((sameReading settings).Answer c c) outcome') :
    outcome.reading.SameKind outcome'.reading := by
  cases h with
  | finished hanswer _ =>
      obtain ⟨rfl, -⟩ := hanswer.cursors
      cases hanswer.verdicts with
      | ok text => exact .matched text _
      | error _ => exact .failed
  | faulted _ _ => exact .faulted _ _
  | unfinished => exact .unfinished
  | broken h _ => exact absurd h (BreaksOff.not_never outcome)

/-- Answers with readings of one kind correspond, since in one text the offset tells where a cursor is. -/
theorem Reading.SameKind.corresponds {allowed allowed' : Fault → Prop}
    (h : outcome.reading.SameKind outcome'.reading) (hleft : outcome.Ensures allowed (Answers c))
    (hright : outcome'.Ensures allowed' (Answers c)) (hsettings : c.settings = settings) :
    outcome.Corresponds (sameReading settings) ((sameReading settings).Answer c c) outcome' := by
  generalize hreading : outcome.reading = reading at h
  generalize hreading' : outcome'.reading = reading' at h
  cases h with
  | matched text offset =>
      obtain ⟨stop, log, rfl, hoffset⟩ := Outcome.reading_eq_matched_iff.1 hreading
      obtain ⟨stop', log', rfl, hoffset'⟩ := Outcome.reading_eq_matched_iff.1 hreading'
      have hanswer : Answers c (.ok text) stop := hleft
      have hanswer' : Answers c (.ok text) stop' := hright
      have hframe : Cursor.SameFrame c stop := hanswer.attempts.sameFrame
      have hframe' : Cursor.SameFrame c stop' := hanswer'.attempts.sameFrame
      have hsame : stop = stop' := (hframe'.symm.trans hframe).eq_of_offset (hoffset.trans hoffset'.symm)
      exact .finished ⟨hleft, hright, .ok text, hsame, hframe.settings_eq.trans hsettings⟩ trivial
  | failed =>
      obtain ⟨failure, stop, log, rfl⟩ := Outcome.reading_eq_failed_iff.1 hreading
      obtain ⟨failure', stop', log', rfl⟩ := Outcome.reading_eq_failed_iff.1 hreading'
      obtain rfl : stop = c := hleft
      obtain rfl : stop' = stop := hright
      exact .finished ⟨rfl, rfl, .error trivial, rfl, hsettings⟩ trivial
  | faulted fault fault' =>
      obtain ⟨log, rfl⟩ := Outcome.reading_eq_faulted_iff.1 hreading
      obtain ⟨log', rfl⟩ := Outcome.reading_eq_faulted_iff.1 hreading'
      exact .faulted trivial trivial
  | unfinished =>
      rw [Outcome.reading_eq_unfinished_iff.1 hreading, Outcome.reading_eq_unfinished_iff.1 hreading']
      exact .unfinished

end Readings

namespace Grammar

variable {g : Grammar} {settings : Settings} {rule rule' : Rule}

theorem matchEquivalent_iff :
    g.MatchEquivalent settings rule rule' ↔
      (sameReading settings).Matches (g.matchAt rule) (g.matchAt rule') := by
  constructor
  · rintro h c _ ⟨rfl, hsettings⟩
    exact (h c hsettings).corresponds (g.matchAt_ensures rule c) (g.matchAt_ensures rule' c) hsettings
  · intro h c hsettings
    exact (h ⟨rfl, hsettings⟩).sameKind

/-- Rules of one shape match alike if their callees do. -/
theorem matchAt_congr {k : Correspondence}
    (h : k.SameShape g g (k.AlikeUnder g.matchAt g.matchAt) rule rule') :
    k.Matches (g.matchAt rule) (g.matchAt rule') := by
  intro c c' hc
  -- The same text lies ahead in both runs, so one number of rounds is enough for both.
  have hahead : c'.ahead.length < c.ahead.length + 1 := by
    rw [k.ahead_eq hc]
    omega
  have hleft : g.matchAt rule c = Matching.restoring (g.attempt (c.ahead.length + 1) g.matchAt rule) c :=
    matchAt_eq (Nat.lt_succ_self c.ahead.length)
  have hright : g.matchAt rule' c'
      = Matching.restoring (g.attempt (c.ahead.length + 1) g.matchAt rule') c' := matchAt_eq hahead
  rw [hleft, hright]
  exact restoring_attempt_corresponds g.matchAt_ensures g.matchAt_ensures h (c.ahead.length + 1) hc

/-- Beside the part that is exchanged, the others are matched as before. -/
theorem forall₂_alike_around {k : Correspondence} (hrules : ∀ rule, k.rules rule rule)
    (h : k.AlikeUnder g.matchAt g.matchAt rule rule') (before after : List Rule) :
    List.Forall₂ (k.AlikeUnder g.matchAt g.matchAt) (before ++ rule :: after) (before ++ rule' :: after) := by
  have hsame : ∀ rules : List Rule, List.Forall₂ (k.AlikeUnder g.matchAt g.matchAt) rules rules :=
    fun rules => List.forall₂_same.2 fun rule _ => ⟨hrules rule, matchAt_corresponds hrules rule⟩
  exact List.rel_append (hsame before) (.cons h (hsame after))

/-- What is matched alike is matched alike in every context, if the two rules belong together there. -/
theorem matches_fill_of {k : Correspondence} (hself : ∀ rule, k.rules rule rule)
    (hrules : ∀ context : RuleContext, k.rules (context.fill rule) (context.fill rule'))
    (h : k.Matches (g.matchAt rule) (g.matchAt rule')) (context : RuleContext) :
    k.Matches (g.matchAt (context.fill rule)) (g.matchAt (context.fill rule')) := by
  induction context with
  | hole => exact h
  | named name body ih => exact matchAt_congr (.named name ⟨hrules body, ih⟩)
  | oneOrMore body ih => exact matchAt_congr (.oneOrMore ⟨hrules body, ih⟩)
  | zeroOrMore body ih => exact matchAt_congr (.zeroOrMore ⟨hrules body, ih⟩)
  | optional body ih => exact matchAt_congr (.optional ⟨hrules body, ih⟩)
  | oneOf before alternative after ih =>
      have hcallees := forall₂_alike_around hself ⟨hrules alternative, ih⟩ before after
      apply matchAt_congr
      exact .oneOf hcallees
  | series spacing before part after ih =>
      have hcallees := forall₂_alike_around hself ⟨hrules part, ih⟩ before after
      apply matchAt_congr
      exact .series spacing hcallees

theorem matches_fill {k : Correspondence} (hrules : ∀ rule rule', k.rules rule rule')
    (h : k.Matches (g.matchAt rule) (g.matchAt rule')) (context : RuleContext) :
    k.Matches (g.matchAt (context.fill rule)) (g.matchAt (context.fill rule')) :=
  matches_fill_of (fun rule => hrules rule rule) (fun _ => hrules _ _) h context

/-- A cell and its definition are matched alike. -/
theorem matchEquivalent_definition {cell : Cell} {definition : Rule}
    (h : g.definition? cell = some definition) (settings : Settings) :
    g.MatchEquivalent settings (.ref cell) definition := by
  intro c _
  rw [matchAt_ref h]
  exact .refl _

/-- Rules that match alike from every cursor still do so in every context.  So a reference to a cell may be
unfolded to its definition anywhere in a rule, and the rule matches as before. -/
theorem matching_is_compositional (g : Grammar) (settings : Settings) :
    (∀ (context : RuleContext) (rule rule' : Rule), g.MatchEquivalent settings rule rule' →
      g.MatchEquivalent settings (context.fill rule) (context.fill rule')) ∧
      ∀ (context : RuleContext) (cell : Cell) (definition : Rule),
        g.definition? cell = some definition →
          g.MatchEquivalent settings (context.fill (.ref cell)) (context.fill definition) := by
  have hfill : ∀ (context : RuleContext) (rule rule' : Rule), g.MatchEquivalent settings rule rule' →
      g.MatchEquivalent settings (context.fill rule) (context.fill rule') := by
    intro context rule rule' h
    rw [matchEquivalent_iff] at h ⊢
    exact matches_fill (fun _ _ => trivial) h context
  refine ⟨hfill, ?_⟩
  intro context cell definition h
  exact hfill context _ _ (matchEquivalent_definition h settings)

/-- A bracketed list may be written with the list unfolded, and so may any number of them between dots. -/
theorem unfolding_bracketed_lists :
    WordLists.grammar.MatchEquivalent {} WordLists.bracketed
        (.series .spaced [.char '(', WordLists.definition, .char ')']) ∧
      WordLists.grammar.MatchEquivalent {}
        (.series .adjacent [.char '.', .zeroOrMore (.oneOf [WordLists.bracketed, .blank]), .char '.'])
        (.series .adjacent [.char '.',
          .zeroOrMore (.oneOf [.series .spaced [.char '(', WordLists.definition, .char ')'], .blank]),
          .char '.']) ∧
      (WordLists.grammar.matchAt (.series .spaced [.char '(', WordLists.definition, .char ')'])
        (Cursor.start ['(', 'a', ',', ' ', 'b', ')'] {})).reading
          = .matched ['(', 'a', ',', ' ', 'b', ')'] 6 := by
  obtain ⟨hfill, hunfold⟩ := matching_is_compositional WordLists.grammar {}
  have hlist := hunfold (.series .spaced [.char '('] .hole [.char ')']) WordLists.list
    WordLists.definition rfl
  refine ⟨hlist, ?_, by decide +kernel⟩
  exact hfill (.series .adjacent [.char '.'] (.zeroOrMore (.oneOf [] .hole [.blank])) [.char '.']) _ _ hlist

end Grammar

end RuleMatch
