import RuleMatch.Proofs.Budget
import RuleMatch.Proofs.Evaluation

/-!
# Matching is evaluation

Matching, with its one pin that series set and put back, comes to the same reading as the evaluator that has
none (`reading_matchAt_iff`).  The reason is that the pin never lies ahead of the cursor (`Cursor.Tracks`).
A place is held if the pin lies right there; once the cursor has moved on from a pin it does not meet it
again (`Cursor.Tracks.held_eq`), so it makes no difference that a series forgets the pin of the series around
it for a while.

The two go in step: they agree for every bound, construct by construct.
-/

namespace RuleMatch

namespace Cursor

/-- Whether the pin lies where the cursor stands. -/
def held (c : Cursor) : Bool :=
  c.pinned == some c.offset

/-- The cursor stands in this text under these settings, and no pin lies ahead of it. -/
structure Tracks (settings : Settings) (input : Text) (c : Cursor) : Prop where
  settings_eq : c.settings = settings
  input_eq : c.input = input
  pin_le : ∀ pin, c.pinned = some pin → pin ≤ c.offset

theorem maySkip_eq (c : Cursor) : c.maySkip = !c.held := rfl

@[simp] theorem held_pin (c : Cursor) : c.pin.held = true := by
  simp [held, pin]

namespace Tracks

variable {settings : Settings} {input : Text} {c d : Cursor} {run : Text}

theorem pin (hc : c.Tracks settings input) : c.pin.Tracks settings input := by
  refine ⟨hc.settings_eq, hc.input_eq, ?_⟩
  rintro pin ⟨⟩
  exact Nat.le_refl _

theorem passes (hc : c.Tracks settings input) (h : c.Passes run d) : d.Tracks settings input := by
  refine ⟨h.frame.settings_eq.trans hc.settings_eq, h.frame.input_eq.trans hc.input_eq, ?_⟩
  intro pin hpin
  have hle := hc.pin_le pin (h.frame.pinned_eq ▸ hpin)
  exact Nat.le_trans hle h.offset_le

/-- A pin behind the cursor holds nothing further on. -/
theorem held_eq (hc : c.Tracks settings input) (h : c.Passes run d) :
    d.held = (c.held && d.offset == c.offset) := by
  have hforward := h.offset_le
  rw [held, held, h.frame.pinned_eq]
  cases hpin : c.pinned with
  | none => rfl
  | some pin =>
      -- The pin is at most `c.offset`, which is at most `d.offset`: it is at `d` only if both are equal.
      have hle := hc.pin_le pin hpin
      rw [Bool.eq_iff_iff]
      simp only [beq_iff_eq, Option.some.injEq, Bool.and_eq_true]
      omega

theorem slice_eq (hc : c.Tracks settings input) (h : c.Passes run d) :
    Text.slice c.offset d.offset input = run := by
  rw [← hc.input_eq, h.slice_eq]

/-- The blanks at the cursor are those that the evaluator skips. -/
theorem skipFrom_eq (hc : c.Tracks settings input) :
    Text.skipFrom input c.offset c.held = c.skipBlanks.2.offset := by
  rw [(passes_skipBlanks c).offset_eq, gap, maySkip_eq, Text.skipFrom, ← hc.input_eq, dropBytes_input]
  cases c.held <;> simp

/-- Skipping blanks does not change whether the place is held: a held place is not left. -/
theorem held_skipBlanks (hc : c.Tracks settings input) : c.skipBlanks.2.held = c.held := by
  rw [hc.held_eq (passes_skipBlanks c)]
  cases hheld : c.held with
  | false => rfl
  | true => simp [skipBlanks, maySkip_eq, hheld]

end Tracks

end Cursor

/-- Matching comes to what the evaluation says, wherever the cursor stands in the text. -/
def Simulates (settings : Settings) (input : Text) (matching : Matching) (evaluation : Evaluation) : Prop :=
  ∀ c : Cursor, c.Tracks settings input → (matching c).reading = evaluation c.offset c.held

variable {settings : Settings} {input : Text}

theorem Terminal.reading_read (terminal : Terminal) {c : Cursor} (hc : c.Tracks settings input)
    (log : List Event) :
    (Outcome.finished (terminal.read c).1 (terminal.read c).2 log).reading
      = terminal.evaluate settings input c.offset c.held := by
  have hentry := terminal.passes_entry c
  have hplace : (if terminal.skipsBlanks then Text.skipFrom input c.offset c.held else c.offset)
      = (terminal.entry c).offset := by
    unfold entry
    cases terminal.skipsBlanks
    · rfl
    · exact hc.skipFrom_eq
  have hahead : Text.dropBytes (terminal.entry c).offset input = (terminal.entry c).ahead := by
    rw [← (hc.passes hentry).input_eq, Cursor.dropBytes_input]
  simp only [evaluate, hplace, hahead, ← hc.settings_eq]
  cases hlexeme : terminal.lexeme? c.settings (terminal.entry c).ahead with
  | some text =>
      obtain ⟨stop, hread, hpass⟩ := read_of_lexeme hlexeme
      simp [hread, Outcome.reading, hpass.offset_eq]
  | none =>
      obtain ⟨failure, hread⟩ := read_of_no_lexeme hlexeme
      simp [hread, Outcome.reading]

/-! ## Constructs -/

/-- Matching and evaluation go on in the same way from what is the same reading. -/
theorem Outcome.Ensures.reading_andThen {outcome : Outcome Verdict} {allowed : Fault → Prop}
    {post : Verdict → Cursor → Prop} {goOn : Verdict → Cursor → Outcome Verdict}
    {ifMatched : Text → Nat → Reading} {ifFailed : Reading} (h : outcome.Ensures allowed post)
    (hmatched : ∀ text stop, post (.ok text) stop →
      (goOn (.ok text) stop).reading = ifMatched text stop.offset)
    (hfailed : ∀ failure stop, post (.error failure) stop →
      (goOn (.error failure) stop).reading = ifFailed) :
    (outcome.andThen goOn).reading = outcome.reading.andThen ifMatched ifFailed := by
  rcases outcome with ⟨failure | text, stop, log⟩ | _ | _
  · rw [finished_andThen, reading_after]
    exact hfailed failure stop h
  · rw [finished_andThen, reading_after]
    exact hmatched text stop h
  · rfl
  · rfl

theorem Reading.andThen_same (reading : Reading) : reading.andThen .matched .failed = reading := by
  cases reading <;> rfl

section Constructs

variable {self : Rule → Matching} {evaluation : Rule → Evaluation} {allowed : Fault → Prop}

/-- The repetition has passed `run` since `start`, and is gone on from by `finish`. -/
theorem reading_repeated {body : Rule} (hself : ∀ c, (self body c).Ensures allowed (Answers c))
    (hsim : Simulates settings input (self body) (evaluation body)) {start c : Cursor} {run : Text}
    (hstart : start.Tracks settings input) (hrun : start.Passes run c) (finish : Nat → Matching)
    {sofar : Reading} (hnone : (finish 0 c).reading = sofar)
    (hmore : ∀ count stop run, start.Passes run stop →
      (finish (count + 1) stop).reading = .matched run stop.offset) (bound : Nat) :
    ((repeated self body bound c).andThen finish).reading
      = evaluateRounds input evaluation body start.offset start.held bound sofar c.offset := by
  -- A round that moves the cursor is one more round for `finish` to count.
  induction bound generalizing run c finish sofar with
  | zero => rfl
  | succ bound ih =>
      have hcall := hsim c (hstart.passes hrun)
      rw [hstart.held_eq hrun] at hcall
      rw [repeated, evaluateRounds, ← hcall, Outcome.andThen_assoc]
      apply (hself c).reading_andThen
      · intro text stop hanswer
        obtain ⟨more, hpass⟩ := Answers.passes hanswer
        have hall := hrun.trans hpass
        rw [hstart.slice_eq hall]
        dsimp only
        split
        · rw [Outcome.finished_andThen, Outcome.after_nil]
          exact hmore 0 stop _ hall
        · simp only [Outcome.andThen_assoc, Outcome.finished_andThen, Outcome.after_nil]
          exact ih hall (fun count => finish (count + 1)) (hmore 0 stop _ hall) fun count =>
            hmore (count + 1)
      · rintro failure stop rfl
        rw [Outcome.finished_andThen, Outcome.reading_after]
        exact hnone

theorem matchOptional_simulates {body : Rule} (hself : ∀ c, (self body c).Ensures allowed (Answers c))
    (hsim : Simulates settings input (self body) (evaluation body)) :
    Simulates settings input (matchOptional self body) (evaluateOptional evaluation body) := by
  intro c hc
  rw [matchOptional, evaluateOptional, ← hsim c hc]
  apply (hself c).reading_andThen
  · intro text stop _
    rfl
  · rintro failure stop rfl
    rfl

theorem reading_firstMatch {rules : List Rule}
    (hself : ∀ rule ∈ rules, ∀ c, (self rule c).Ensures allowed (Answers c))
    (hsim : ∀ rule ∈ rules, Simulates settings input (self rule) (evaluation rule)) {c : Cursor}
    (hc : c.Tracks settings input) {finish : Option Text → Matching}
    (hsome : ∀ text stop, (finish (some text) stop).reading = .matched text stop.offset)
    (hnone : ∀ stop, (finish none stop).reading = .failed) (mark index : Nat) :
    ((firstMatch self mark index rules c).andThen finish).reading
      = evaluateOneOf evaluation rules c.offset c.held := by
  induction rules generalizing index with
  | nil =>
      rw [firstMatch, Outcome.finished_andThen, Outcome.reading_after]
      exact hnone c
  | cons rule rules ih =>
      obtain ⟨hrule, hrules⟩ := List.forall_mem_cons.1 hself
      obtain ⟨hfirst, hrest⟩ := List.forall_mem_cons.1 hsim
      rw [firstMatch, evaluateOneOf, ← hfirst c hc, Outcome.andThen_assoc]
      apply (hrule c).reading_andThen
      · intro text stop _
        rw [Outcome.finished_andThen, Outcome.reading_after]
        exact hsome text stop
      · rintro failure stop rfl
        rw [Outcome.after_andThen, Outcome.reading_after]
        exact ih hrules hrest (index + 1)

theorem laterPart_simulates {part : Rule} (hself : ∀ c, (self part c).Ensures allowed (Answers c))
    (hsim : Simulates settings input (self part) (evaluation part)) (spacing : Spacing)
    {start c : Cursor} {run : Text} (hstart : start.Tracks settings input) (hrun : start.Passes run c) :
    (laterPart self spacing part c).reading
      = evaluateLaterPart input evaluation spacing start.offset start.held part c.offset := by
  have hc := hstart.passes hrun
  cases spacing with
  | spaced =>
      -- A held place has no gap, so the part is evaluated there; behind a gap nothing is held.
      have hcall := hsim c.skipBlanks.2 (hc.passes (Cursor.passes_skipBlanks c))
      rw [hc.held_skipBlanks, ← hc.skipFrom_eq, hstart.held_eq hrun] at hcall
      exact hcall
  | adjacent =>
      -- Whatever pin was in force is put back, but the reading does not show it.
      have hcall : (self part c.pin).reading = evaluation part c.offset true := by
        rw [hsim c.pin hc.pin, c.held_pin]
        rfl
      rw [laterPart, evaluateLaterPart, ← hcall, ← Reading.andThen_same (self part c.pin).reading]
      apply (hself c.pin).reading_andThen
      · intro text stop _
        rfl
      · intro failure stop _
        rfl

/-- The series started at `start`, has skipped `skipped` and has matched `text` so far. -/
theorem reading_laterParts {parts : List Rule}
    (hself : ∀ part ∈ parts, ∀ c, (self part c).Ensures allowed (Answers c))
    (hsim : ∀ part ∈ parts, Simulates settings input (self part) (evaluation part)) (spacing : Spacing)
    {start c : Cursor} {skipped text : Text} (hstart : start.Tracks settings input)
    (hrun : start.Passes (skipped ++ text) c) (index : Nat) :
    (laterParts self spacing start.offset (start.offset + Text.byteLength skipped) index parts c).reading
      = evaluateLaterParts input evaluation spacing start.offset start.held parts text c.offset := by
  induction parts generalizing text c index with
  | nil =>
      rw [laterParts, Matching.upTo_eq hrun]
      rfl
  | cons part parts ih =>
      obtain ⟨hpart, hparts⟩ := List.forall_mem_cons.1 hself
      obtain ⟨hfirst, hrest⟩ := List.forall_mem_cons.1 hsim
      rw [laterParts_cons hpart spacing hrun.frame, evaluateLaterParts,
        ← laterPart_simulates hpart hfirst spacing hstart hrun]
      apply (laterPart_ensures hpart spacing c).reading_andThen
      · rintro partText stop ⟨more, hmore⟩
        have hall : start.Passes (skipped ++ (text ++ more)) stop := hrun.trans_text hmore
        rw [(hstart.passes hrun).slice_eq hmore]
        exact ih hparts hrest hall (index + 1)
      · rintro failure stop _
        rfl

theorem matchSeries_simulates {parts : List Rule}
    (hself : ∀ part ∈ parts, ∀ c, (self part c).Ensures allowed (Answers c))
    (hsim : ∀ part ∈ parts, Simulates settings input (self part) (evaluation part))
    (spacing : Spacing) :
    Simulates settings input (matchSeries self spacing parts)
      (evaluateSeries input evaluation spacing parts) := by
  intro c hc
  cases parts with
  | nil =>
      rw [matchSeries, Matching.upTo_offset (Cursor.Passes.refl c)]
      rfl
  | cons first others =>
      obtain ⟨hpart, hparts⟩ := List.forall_mem_cons.1 hself
      obtain ⟨hfirst, hrest⟩ := List.forall_mem_cons.1 hsim
      rw [matchSeries_cons (hpart c), evaluateSeries, ← hfirst c hc]
      apply (hpart c).reading_andThen
      · rintro text stop ⟨skipped, -, hpass⟩
        dsimp only
        rw [hpass.textStart_eq.2]
        exact reading_laterParts hparts hrest spacing hc hpass 1
      · rintro failure stop rfl
        rfl

end Constructs

/-! ## Rules -/

theorem reading_restoring {attempt : Matching} {allowed : Fault → Prop} {c : Cursor}
    (h : (attempt c).Ensures allowed (Attempts c)) :
    (Matching.restoring attempt c).reading = (attempt c).reading := by
  rw [← Reading.andThen_same (attempt c).reading]
  apply h.reading_andThen
  · intro text stop _
    rfl
  · intro failure stop hframe
    dsimp only
    rw [Cursor.moveTo_offset hframe]
    rfl

namespace Grammar

variable {g : Grammar}

/-- An attempt simulates the evaluation of its rule if its callees are matched as they are evaluated. -/
theorem attempt_simulates {self : Rule → Matching} {evaluation : Rule → Evaluation}
    {allowed : Fault → Prop} (hself : ∀ rule c, (self rule c).Ensures allowed (Answers c))
    (hsim : ∀ rule, Simulates settings input (self rule) (evaluation rule)) (bound : Nat) (rule : Rule) :
    Simulates settings input (g.attempt bound self rule)
      (g.evaluateCall settings input bound evaluation rule) := by
  cases rule with
  | terminal t => exact fun c hc => t.reading_read hc []
  | named name body => exact hsim body
  | oneOrMore body =>
      intro c hc
      apply reading_repeated (hself body) (hsim body) hc (Cursor.Passes.refl c)
      · rfl
      · intro count stop run hrun
        rw [if_neg (Nat.succ_ne_zero count), Matching.upTo_offset hrun]
        rfl
  | zeroOrMore body =>
      intro c hc
      apply reading_repeated (hself body) (hsim body) hc (Cursor.Passes.refl c)
      · rw [Matching.upTo_offset (Cursor.Passes.refl c)]
        rfl
      · intro count stop run hrun
        rw [Matching.upTo_offset hrun]
        rfl
  | optional body => exact matchOptional_simulates (hself body) (hsim body)
  | oneOf alternatives =>
      intro c hc
      apply reading_firstMatch (fun r _ => hself r) (fun r _ => hsim r) hc
      · intro text stop
        rfl
      · intro stop
        rfl
  | series spacing parts =>
      exact matchSeries_simulates (fun r _ => hself r) (fun r _ => hsim r) spacing
  | ref cell =>
      cases hdef : g.definition? cell with
      | some definition =>
          simp only [attempt, evaluateCall, require_eq_ok hdef]
          exact hsim definition
      | none =>
          simp only [attempt, evaluateCall, require_eq_error hdef]
          exact fun _ _ => rfl

/-- Matching and evaluation go in step. -/
theorem matchWithin_simulates (bound : Nat) (rule : Rule) :
    Simulates settings input (g.matchWithin bound rule) (g.evaluateWithin settings input bound rule) := by
  induction bound generalizing rule with
  | zero => exact fun _ _ => rfl
  | succ bound ih =>
      intro c hc
      have hframe := g.attempt_ensures_attempts (g.matchWithin_ensures bound) bound rule c
      rw [matchWithin, reading_restoring hframe]
      exact attempt_simulates (g.matchWithin_ensures bound) ih bound rule c hc

/-- If no pin lies ahead of the cursor, a match comes to a reading exactly if the evaluation without pins
comes to it where the cursor stands, held if the pin lies right there.  So if one of the two ends, the other
ends as well, with the same success, text and offset. -/
theorem reading_matchAt_iff {rule : Rule} {c : Cursor} {reading : Reading}
    (hpin : ∀ pin, c.pinned = some pin → pin ≤ c.offset) (hends : reading ≠ .unfinished) :
    (g.matchAt rule c).reading = reading ↔
      ∃ bound, g.evaluateWithin c.settings c.input bound rule c.offset (c.pinned == some c.offset)
        = reading := by
  have hc : c.Tracks c.settings c.input := ⟨rfl, rfl, hpin⟩
  constructor
  · intro h
    exact ⟨g.budget rule c, (matchWithin_simulates _ rule c hc).symm.trans h⟩
  -- What an evaluation comes to under some bound is what matching comes to under the budget.
  · rintro ⟨bound, h⟩
    have hreading : (g.matchWithin bound rule c).reading = reading :=
      (matchWithin_simulates bound rule c hc).trans h
    have hmatch : g.matchWithin bound rule c ≠ .unfinished := by
      intro hunfinished
      exact hends (hreading.symm.trans (Outcome.reading_eq_unfinished_iff.2 hunfinished))
    rw [g.matchWithin_extends_matchAt bound rule c hmatch, hreading]

/-- A call directly behind its name, with an argument that is an adjacent series again. -/
def nestedSeries : Rule :=
  .series .adjacent
    [.letter, .series .spaced [.char '(', .series .adjacent [.char 'x', .digit], .char ')']]

/-- A call is evaluated at a pinned cursor: blanks may stand inside the parentheses, but not in front. -/
theorem reading_of_nested_series :
    (∃ bound, ({} : Grammar).evaluateWithin {} ['f', '(', ' ', 'x', '1', ' ', ')'] bound nestedSeries 0 true
        = .matched ['f', '(', ' ', 'x', '1', ' ', ')'] 7) ∧
      ∃ bound, ({} : Grammar).evaluateWithin {} ['f', ' ', '(', 'x', '1', ')'] bound nestedSeries 0 true
        = .failed := by
  have hpin : ∀ text pin, (Cursor.start text {}).pin.pinned = some pin →
      pin ≤ (Cursor.start text {}).pin.offset := by
    rintro text pin ⟨⟩
    exact Nat.le_refl _
  have hmatched : (({} : Grammar).matchAt nestedSeries
      (Cursor.start ['f', '(', ' ', 'x', '1', ' ', ')'] {}).pin).reading
        = .matched ['f', '(', ' ', 'x', '1', ' ', ')'] 7 := by
    decide +kernel
  have hfailed : (({} : Grammar).matchAt nestedSeries
      (Cursor.start ['f', ' ', '(', 'x', '1', ')'] {}).pin).reading = .failed := by
    decide +kernel
  exact ⟨(reading_matchAt_iff (hpin _) (by simp)).1 hmatched,
    (reading_matchAt_iff (hpin _) (by simp)).1 hfailed⟩

end Grammar

end RuleMatch
