import RuleMatch.Proofs.Correspondence
import RuleMatch.Proofs.WordLists

/-!
# Text in front of the input

What a match comes to depends on what lies ahead of the cursor, and not on what lies behind.  If a text is put
in front of the input, every offset that a match speaks of grows by the width of that text, in the place where
it ends, in its failure at any depth and in its log; nothing else changes, and the look ahead says the same
(`text_in_front_moves_offsets`).

Pins are moved on with the text they lie in.  The text in front has room for pins of its own.  No match comes
back to them, so they count for as little as none (`pinBehind`).
-/

namespace RuleMatch

/-! ## Moving offsets on -/

/-- The failed read, further on in a longer text. -/
def ReadFailure.shift (width : Nat) : ReadFailure → ReadFailure
  | .endOfInput offset => .endOfInput (offset + width)
  | .unexpected found offset => .unexpected found (offset + width)

/-- The failure, further on in a longer text.  The failures inside it move with it. -/
def Failure.shift (width : Nat) : Failure → Failure
  | .endOfInput expected offset => .endOfInput expected (offset + width)
  | .wrongChar expected found offset => .wrongChar expected found (offset + width)
  | .wrongKeyword expected found offset => .wrongKeyword expected found (offset + width)
  | .noneRepeated rule offset => .noneRepeated rule (offset + width)
  | .noAlternative tried offset => .noAlternative tried (offset + width)
  | .partFailed index cause => .partFailed index (cause.shift width)
  | .undefinedRule name => .undefinedRule name

theorem Failure.ofRead_shift (expected : String) (failure : ReadFailure) (width : Nat) :
    ofRead expected (failure.shift width) = (ofRead expected failure).shift width := by
  cases failure <;> rfl

/-- The entry of a log, further on in a longer text. -/
def Event.shift (width : Nat) : Event → Event
  | .repetitionStopped body offset failure => .repetitionStopped body (offset + width) (failure.shift width)
  | .alternativeFailed index alternative offset failure =>
      .alternativeFailed index alternative (offset + width) (failure.shift width)
  | .choiceFailed offset => .choiceFailed (offset + width)
  | .partFailed index part offset => .partFailed index part (offset + width)

/-- The verdict, further on in a longer text. -/
def Verdict.shift (width : Nat) (verdict : Verdict) : Verdict :=
  verdict.mapError (Failure.shift width)

theorem Verdict.sameVerdict_shift (width : Nat) (verdict : Verdict) :
    SameVerdict (fun failure failure' => failure' = failure.shift width) verdict
      (Verdict.shift width verdict) := by
  cases verdict with
  | ok text => exact .ok text
  | error failure => exact .error rfl

/-! ## Pins behind the input -/

/-- What is left of a pin if the first `width` bytes of a text are taken away. -/
def pinBehind (width : Nat) (pinned : Option Nat) : Option Nat :=
  pinned.bind fun pin => if width ≤ pin then some (pin - width) else none

theorem pinBehind_add (width pin : Nat) : pinBehind width (some (width + pin)) = some pin := by
  simp [pinBehind]

theorem pinBehind_of_lt {width pin : Nat} (h : pin < width) : pinBehind width (some pin) = none := by
  simp [pinBehind]
  omega

theorem pinBehind_eq_some_iff {width pin : Nat} {pinned : Option Nat} :
    pinBehind width pinned = some pin ↔ pinned = some (pin + width) := by
  cases pinned with
  | none => simp [pinBehind]
  | some far =>
      simp only [pinBehind, Option.bind_some, Option.some.injEq]
      split
      · simp
        omega
      · simp
        omega

/-! ## Cursors -/

namespace Cursor

/-- The cursor at the same place of its text, with another text in front and with a pin of its own. -/
def precededBy (before : Text) (pinned : Option Nat) (c : Cursor) : Cursor where
  behind := c.behind ++ before.reverse
  ahead := c.ahead
  offset := c.offset + Text.byteLength before
  pinned := pinned
  settings := c.settings
  offset_eq := by simp [c.offset_eq]

variable {before : Text} {pinned : Option Nat} {c : Cursor}

theorem input_precededBy (before : Text) (pinned : Option Nat) (c : Cursor) :
    (c.precededBy before pinned).input = before ++ c.input := by
  simp [input, precededBy]

theorem pass_precededBy (before : Text) (pinned : Option Nat) (c : Cursor) (ch : Char) (ahead : Text) :
    (c.precededBy before pinned).pass ch ahead = (c.pass ch ahead).precededBy before pinned := by
  ext1
  · rfl
  · rfl
  · simp only [pass, precededBy]
    omega
  · rfl
  · rfl

theorem advance_precededBy (before : Text) (pinned : Option Nat) (c : Cursor) (count : Nat) :
    (c.precededBy before pinned).advance count
      = ((c.advance count).mapError (ReadFailure.shift (Text.byteLength before))).map
          (precededBy before pinned) := by
  induction count generalizing c with
  | zero => rfl
  | succ count ih =>
      have hahead : (c.precededBy before pinned).ahead = c.ahead := rfl
      rw [advance, advance, hahead]
      cases c.ahead with
      | nil => rfl
      | cons ch ahead =>
          dsimp only
          rw [pass_precededBy, ih]

theorem passBlanks_precededBy (before : Text) (pinned : Option Nat) (c : Cursor) (ahead : Text) :
    ((c.precededBy before pinned).passBlanks ahead).2 = (c.passBlanks ahead).2.precededBy before pinned := by
  induction ahead generalizing c with
  | nil => rfl
  | cons ch ahead ih =>
      simp only [passBlanks]
      split
      · rw [pass_precededBy]
        exact ih (c.pass ch ahead)
      · rfl

/-- Whether blanks may be skipped does not depend on the pins in the text in front. -/
theorem maySkip_precededBy (h : c.pinned = pinBehind (Text.byteLength before) pinned) :
    (c.precededBy before pinned).maySkip = c.maySkip := by
  have hheld : pinned = some (c.offset + Text.byteLength before) ↔ c.pinned = some c.offset := by
    rw [h, pinBehind_eq_some_iff]
  rw [Bool.eq_iff_iff]
  simp only [maySkip, precededBy, bne_iff_ne, ne_eq, hheld]

theorem skipBlanks_precededBy (h : c.pinned = pinBehind (Text.byteLength before) pinned) :
    (c.precededBy before pinned).skipBlanks.2 = c.skipBlanks.2.precededBy before pinned := by
  unfold skipBlanks
  rw [maySkip_precededBy h]
  split
  · exact passBlanks_precededBy before pinned c c.ahead
  · rfl

theorem readChar_precededBy (before : Text) (pinned : Option Nat) (c : Cursor) (expected : String)
    (accepts : Char → Bool) :
    (c.precededBy before pinned).readChar expected accepts
      = (Verdict.shift (Text.byteLength before) (c.readChar expected accepts).1,
          (c.readChar expected accepts).2.precededBy before pinned) := by
  have hahead : (c.precededBy before pinned).ahead = c.ahead := rfl
  unfold readChar readIf
  rw [hahead]
  cases c.ahead with
  | nil => rfl
  | cons ch ahead =>
      by_cases haccepts : accepts ch = true
      · simp only [if_pos haccepts, pass_precededBy]
        rfl
      · simp only [if_neg haccepts]
        rfl

theorem readKeyword_precededBy (before : Text) (pinned : Option Nat) (c : Cursor) (keyword : String) :
    (c.precededBy before pinned).readKeyword keyword
      = (Verdict.shift (Text.byteLength before) (c.readKeyword keyword).1,
          (c.readKeyword keyword).2.precededBy before pinned) := by
  have hstarts : (c.precededBy before pinned).startsWith keyword.toList = c.startsWith keyword.toList := rfl
  unfold readKeyword
  dsimp only
  rw [hstarts, advance_precededBy]
  split
  · cases c.advance keyword.toList.length with
    | error failure =>
        show (Except.error (Failure.ofRead keyword (failure.shift _)), _) = _
        rw [Failure.ofRead_shift]
        rfl
    | ok stop =>
        by_cases hruns : c.settings.runsOn keyword.toList stop.ahead = true
        · simp only [if_pos hruns]
          exact if_pos hruns
        · simp only [if_neg hruns]
          exact if_neg hruns
  · rfl

end Cursor

theorem Terminal.read_precededBy (terminal : Terminal) {before : Text} {pinned : Option Nat} {c : Cursor}
    (h : c.pinned = pinBehind (Text.byteLength before) pinned) :
    terminal.read (c.precededBy before pinned)
      = (Verdict.shift (Text.byteLength before) (terminal.read c).1,
          (terminal.read c).2.precededBy before pinned) := by
  cases terminal with
  | digit => exact c.readChar_precededBy before pinned _ _
  | letter => exact c.readChar_precededBy before pinned _ _
  | blank => exact c.readChar_precededBy before pinned _ _
  | char ch =>
      rw [read, read, Cursor.skipBlanks_precededBy h]
      exact c.skipBlanks.2.readChar_precededBy before pinned _ _
  | keyword keyword =>
      rw [read, read, Cursor.skipBlanks_precededBy h]
      exact c.skipBlanks.2.readKeyword_precededBy before pinned keyword

/-! ## Runs -/

/-- The second cursor is the first one in a longer text, with a pin where the first one has it. -/
structure Cursor.InLongerText (before : Text) (c c' : Cursor) : Prop where
  cursor_eq : c' = c.precededBy before c'.pinned
  pinned_eq : c.pinned = pinBehind (Text.byteLength before) c'.pinned

/-- Wherever a cursor goes under its pin, the one in the longer text goes with it. -/
theorem Cursor.InLongerText.move {before : Text} {c c' d : Cursor} (h : c.InLongerText before c')
    (hframe : SameFrame c d) : d.InLongerText before (d.precededBy before c'.pinned) :=
  ⟨rfl, hframe.pinned_eq.trans h.pinned_eq⟩

/-- A run, and the same run with a text in front of the input. -/
def textInFront (before : Text) : Correspondence where
  cursors := Cursor.InLongerText before
  rules := Eq
  failures failure failure' := failure' = failure.shift (Text.byteLength before)
  faults fault fault' := fault' = fault
  logs log log' := log' = log.map (Event.shift (Text.byteLength before))
  ahead_eq := by
    intro c c' h
    rw [h.cursor_eq]
    rfl
  pin := by
    intro c c' h
    refine ⟨?_, ?_⟩
    · rw [h.cursor_eq]
      rfl
    · rw [h.cursor_eq]
      exact (pinBehind_eq_some_iff.2 rfl).symm
  repin := by
    intro c c' d d' hc hd
    refine ⟨?_, hc.pinned_eq⟩
    rw [hd.cursor_eq]
    rfl
  skipBlanks := by
    intro c c' h
    have hskip := Cursor.skipBlanks_precededBy h.pinned_eq
    rw [← h.cursor_eq] at hskip
    rw [hskip]
    exact h.move (Cursor.sameFrame_skipBlanks c)
  read := by
    intro terminal c c' h
    have hread := terminal.read_precededBy h.pinned_eq
    rw [← h.cursor_eq] at hread
    rw [hread]
    exact ⟨Verdict.sameVerdict_shift _ _, h.move (terminal.attempts_read c).sameFrame⟩
  faults_refl _ := rfl
  noneRepeated := by
    rintro body _ c c' rfl h
    rw [h.cursor_eq]
    rfl
  noAlternative := by
    intro alternatives alternatives' c c' halternatives h
    rw [List.forall₂_eq_eq_eq] at halternatives
    rw [h.cursor_eq, halternatives]
    rfl
  partFailed := by
    rintro index cause _ rfl
    rfl
  logs_nil := List.map_nil.symm
  logs_append := by
    rintro log _ rest _ rfl rfl
    exact List.map_append.symm
  logs_repetitionStopped := by
    rintro body _ c c' failure _ rfl h rfl
    rw [h.cursor_eq]
    rfl
  logs_alternativeFailed := by
    rintro index rule _ c c' failure _ rfl h rfl
    rw [h.cursor_eq]
    rfl
  logs_choiceFailed := by
    intro c c' h
    rw [h.cursor_eq]
    rfl
  logs_partFailed := by
    rintro index part _ c c' rfl h
    rw [h.cursor_eq]
    rfl

/-- The outcome with all its offsets moved on, and its cursor in the longer text. -/
def Outcome.precededBy {α : Type} (before : Text) (pinned : Option Nat) (onValue : α → α) :
    Outcome α → Outcome α
  | .finished value stop log =>
      .finished (onValue value) (stop.precededBy before pinned)
        (log.map (Event.shift (Text.byteLength before)))
  | .faulted fault log => .faulted fault (log.map (Event.shift (Text.byteLength before)))
  | .unfinished => .unfinished

theorem Outcome.value?_precededBy {α : Type} (before : Text) (pinned : Option Nat) (onValue : α → α)
    (outcome : Outcome α) :
    (outcome.precededBy before pinned onValue).value? = outcome.value?.map onValue := by
  cases outcome <;> rfl

theorem Outcome.Corresponds.eq_precededBy {α : Type} {before : Text} {pinned : Option Nat}
    {onValue : α → α} {values : α → Cursor → α → Cursor → Prop} {outcome outcome' : Outcome α}
    (h : outcome.Corresponds (textInFront before) values outcome')
    (hvalues : ∀ value stop value' stop', values value stop value' stop' →
      value' = onValue value ∧ stop' = stop.precededBy before pinned) :
    outcome' = outcome.precededBy before pinned onValue := by
  cases h with
  | finished h hlog =>
      obtain ⟨hvalue, hstop⟩ := hvalues _ _ _ _ h
      rw [hvalue, hstop, hlog]
      rfl
  | faulted h hlog =>
      rw [h, hlog]
      rfl
  | unfinished => rfl
  | broken h _ => exact absurd h (BreaksOff.not_never outcome)

namespace Grammar

/-- Put a text in front of the input.  Then a match from the same place comes to the same: the same text,
with the offset behind it moved on by the width of the text in front; or the same failure, with every offset
in it moved on at any depth; or the same fault; or to no end.  Its log is the same, moved on, and the look
ahead gives the same answer.  A pin in the text in front counts for none. -/
theorem text_in_front_moves_offsets (g : Grammar) (rule : Rule) (before : Text) (pinned : Option Nat)
    {c : Cursor} (hpin : c.pinned = pinBehind (Text.byteLength before) pinned) :
    g.matchAt rule (c.precededBy before pinned)
        = (g.matchAt rule c).precededBy before pinned (Verdict.shift (Text.byteLength before)) ∧
      g.mayMatch rule (c.precededBy before pinned) = (g.mayMatch rule c).precededBy before pinned id := by
  have hc : c.InLongerText before (c.precededBy before pinned) := ⟨rfl, hpin⟩
  constructor
  · refine (g.matchAt_corresponds (k := textInFront before) (fun _ => rfl) rule hc).eq_precededBy ?_
    intro verdict stop verdict' stop' hanswer
    obtain ⟨run, hrun⟩ := hanswer.right.passes
    have hstop := hanswer.cursors.cursor_eq
    rw [hrun.frame.pinned_eq] at hstop
    refine ⟨?_, hstop⟩
    cases hanswer.verdicts with
    | ok text => rfl
    | error h => exact congrArg Except.error h
  · refine (g.mayMatch_corresponds rule (k := textInFront before) hc).eq_precededBy ?_
    rintro can _ _ _ ⟨rfl, rfl, rfl⟩
    exact ⟨rfl, rfl⟩

/-- Behind two characters of three bytes a bracketed list fails three bytes further on.  A pin in front of
them does not hold the blank in front of the list; a pin behind them does. -/
theorem offsets_of_bracketed_list_move_on :
    ((Cursor.start [' ', '(', 'a', ','] {}).precededBy ['é', ' '] (some 0)).input
        = ['é', ' ', ' ', '(', 'a', ','] ∧
      (WordLists.grammar.matchAt WordLists.bracketed
          ((Cursor.start [' ', '(', 'a', ','] {}).precededBy ['é', ' '] (some 0))).value?
        = some (.error (.partFailed 2 (.wrongChar "')'" ',' 6))) ∧
      (WordLists.grammar.matchAt WordLists.bracketed
          ((Cursor.start [' ', '(', 'a', ','] {}).pin.precededBy ['é', ' '] (some 3))).value?
        = some (.error (.partFailed 0 (.wrongChar "'('" ' ' 3))) ∧
      (WordLists.grammar.mayMatch WordLists.bracketed
          ((Cursor.start [' ', '(', 'a', ','] {}).precededBy ['é', ' '] (some 0))).value? = some true := by
  have hbefore := text_in_front_moves_offsets WordLists.grammar WordLists.bracketed ['é', ' '] (some 0)
    (c := Cursor.start [' ', '(', 'a', ','] {}) (pinBehind_of_lt (by decide)).symm
  have hbehind := text_in_front_moves_offsets WordLists.grammar WordLists.bracketed ['é', ' '] (some 3)
    (c := (Cursor.start [' ', '(', 'a', ','] {}).pin) (pinBehind_add 3 0).symm
  rw [Cursor.input_precededBy, hbefore.1, hbefore.2, hbehind.1]
  simp only [Outcome.value?_precededBy]
  decide +kernel

end Grammar

end RuleMatch
