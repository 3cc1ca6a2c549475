import RuleMatch.Proofs.Budget
import RuleMatch.Proofs.TextInFront
import RuleMatch.Proofs.WordLists

/-!
# Texts without blanks

A pin holds back the blanks at one place, and the two kinds of series differ in what they make of the blanks
between their parts.  So both are about blanks and about nothing else: where no blank lies ahead, a match comes
to the same under every pin, with the same failure and the same log, and a series is matched alike whether it
is spaced or adjacent (`only_blanks_tell_pins_and_spacings_apart`).

The law of pins comes first and is one of two runs side by side, of the same rule under two pins (`anyPin`).
The law of spacings follows from it.  A later part of an adjacent series is matched under a pin of its own,
and by the first law the pin may be left out.
-/

namespace RuleMatch

/-! ## Cursors -/

namespace Cursor

/-- None of the characters ahead is a blank. -/
def NoBlankAhead (c : Cursor) : Prop :=
  ∀ ch ∈ c.ahead, isBlank ch = false

namespace NoBlankAhead

variable {c d : Cursor}

theorem of_passes (h : c.NoBlankAhead) {run : Text} (hpass : c.Passes run d) : d.NoBlankAhead := by
  intro ch hch
  have hmem : ch ∈ c.ahead := by
    rw [hpass.ahead_eq]
    exact List.mem_append_right run hch
  exact h ch hmem

theorem gap_eq_nil (h : c.NoBlankAhead) : c.gap = [] := by
  apply List.eq_nil_iff_forall_not_mem.2
  intro ch hch
  have hmem : ch ∈ c.ahead := by
    rw [(passes_skipBlanks c).ahead_eq]
    exact List.mem_append_left _ hch
  have hblank : isBlank ch = true := isBlank_of_mem_gap hch
  rw [h ch hmem] at hblank
  exact absurd hblank Bool.false_ne_true

theorem skipBlanks_eq (h : c.NoBlankAhead) : c.skipBlanks.2 = c := by
  rw [skipBlanks_of_gap_eq_nil h.gap_eq_nil]

end NoBlankAhead

/-- Another pin is what is left of a longer text if nothing stands in front. -/
theorem precededBy_nil (pinned : Option Nat) (c : Cursor) : c.precededBy [] pinned = c.repin pinned := by
  apply Cursor.ext
  · exact List.append_nil c.behind
  · rfl
  · rfl
  · rfl
  · rfl

end Cursor

theorem Failure.shift_zero (failure : Failure) : failure.shift 0 = failure := by
  induction failure with
  | partFailed index cause ih => rw [shift, ih]
  | _ => rfl

theorem Verdict.shift_zero (verdict : Verdict) : Verdict.shift 0 verdict = verdict := by
  cases verdict with
  | ok text => rfl
  | error failure => exact congrArg Except.error failure.shift_zero

theorem Cursor.readChar_repin (c : Cursor) (pinned : Option Nat) (expected : String) (accepts : Char → Bool) :
    (c.repin pinned).readChar expected accepts
      = ((c.readChar expected accepts).1, (c.readChar expected accepts).2.repin pinned) := by
  have h := c.readChar_precededBy [] pinned expected accepts
  rw [precededBy_nil, precededBy_nil, Text.byteLength_nil, Verdict.shift_zero] at h
  exact h

theorem Cursor.readKeyword_repin (c : Cursor) (pinned : Option Nat) (keyword : String) :
    (c.repin pinned).readKeyword keyword
      = ((c.readKeyword keyword).1, (c.readKeyword keyword).2.repin pinned) := by
  have h := c.readKeyword_precededBy [] pinned keyword
  rw [precededBy_nil, precededBy_nil, Text.byteLength_nil, Verdict.shift_zero] at h
  exact h

/-- A terminal that finds no blanks reads the same under every pin. -/
theorem Terminal.read_repin (terminal : Terminal) {c : Cursor} (h : c.NoBlankAhead) (pinned : Option Nat) :
    terminal.read (c.repin pinned) = ((terminal.read c).1, (terminal.read c).2.repin pinned) := by
  have hpinned : (c.repin pinned).NoBlankAhead := h
  cases terminal with
  | digit => exact c.readChar_repin pinned _ _
  | letter => exact c.readChar_repin pinned _ _
  | blank => exact c.readChar_repin pinned _ _
  | char ch =>
      rw [read, read, hpinned.skipBlanks_eq, h.skipBlanks_eq]
      exact c.readChar_repin pinned _ _
  | keyword keyword =>
      rw [read, read, hpinned.skipBlanks_eq, h.skipBlanks_eq]
      exact c.readKeyword_repin pinned keyword

/-! ## Pins -/

/-- Two cursors that are the same but for the pin, where no blank lies ahead. -/
def CursorPairing.anyPins : CursorPairing where
  cursors c c' := c' = c.repin c'.pinned ∧ c.NoBlankAhead
  ahead_eq := by
    intro c c' h
    rw [h.1]
    rfl
  pin := by
    intro c c' h
    refine ⟨?_, h.2⟩
    rw [h.1]
    rfl
  repin := by
    intro c c' d d' _ hd
    refine ⟨?_, hd.2⟩
    rw [hd.1]
    rfl
  skipBlanks := by
    intro c c' h
    have hnone : c'.NoBlankAhead := by
      rw [h.1]
      exact h.2
    rw [h.2.skipBlanks_eq, hnone.skipBlanks_eq]
    exact h

theorem CursorPairing.anyPins_offset {c c' : Cursor} (h : anyPins.cursors c c') : c'.offset = c.offset := by
  rw [h.1]
  rfl

theorem CursorPairing.anyPins_read (terminal : Terminal) {c c' : Cursor} (h : anyPins.cursors c c') :
    (terminal.read c').1 = (terminal.read c).1 ∧ anyPins.cursors (terminal.read c).2 (terminal.read c').2 := by
  have hread := terminal.read_repin h.2 c'.pinned
  obtain ⟨run, hrun⟩ := terminal.passes_read c
  rw [← h.1] at hread
  rw [hread]
  exact ⟨rfl, rfl, h.2.of_passes hrun⟩

/-- Two runs that are the same but for the pin, where no blank lies ahead. -/
def anyPin : Correspondence :=
  CursorPairing.anyPins.sameSteps (fun _ => False) CursorPairing.anyPins_offset CursorPairing.anyPins_read

namespace Outcome

variable {α : Type}

/-- The outcome with another pin at its end. -/
def repin (pinned : Option Nat) (outcome : Outcome α) : Outcome α :=
  outcome.andThen fun value stop => .finished value (stop.repin pinned) []

/-- Of two pins the later one counts. -/
theorem repin_repin (outcome : Outcome α) (pinned pinned' : Option Nat) :
    (outcome.repin pinned).repin pinned' = outcome.repin pinned' := by
  rw [repin, repin, andThen_assoc]
  rfl

theorem repin_eq_self {allowed : Fault → Prop} {pinned : Option Nat} {outcome : Outcome α}
    (h : outcome.Ensures allowed fun _ stop => stop.pinned = pinned) : outcome.repin pinned = outcome := by
  have hsame : outcome.repin pinned = outcome.andThen fun value stop => .finished value stop [] := by
    apply h.andThen_congr
    intro value stop hpinned
    rw [← hpinned]
    rfl
  rw [hsame, andThen_finished]

end Outcome

namespace Grammar

variable {g : Grammar} {c : Cursor}

theorem matchAt_repin (h : c.NoBlankAhead) (rule : Rule) (pinned : Option Nat) :
    g.matchAt rule (c.repin pinned) = (g.matchAt rule c).repin pinned := by
  have hcursors : anyPin.cursors c (c.repin pinned) := ⟨rfl, h⟩
  apply (g.matchAt_corresponds (fun _ => rfl) rule hcursors).eq_moved CursorPairing.anyPins_offset
  intro verdict stop verdict' stop' hanswer
  obtain ⟨run, hrun⟩ := hanswer.right.passes
  have hstop := hanswer.cursors.1
  rw [hrun.frame.pinned_eq] at hstop
  exact ⟨hanswer.verdicts.eq, hstop⟩

theorem mayMatch_repin (h : c.NoBlankAhead) (rule : Rule) (pinned : Option Nat) :
    g.mayMatch rule (c.repin pinned) = (g.mayMatch rule c).repin pinned := by
  have hcursors : anyPin.cursors c (c.repin pinned) := ⟨rfl, h⟩
  apply (g.mayMatch_corresponds rule hcursors).eq_moved CursorPairing.anyPins_offset
  intro can stop can' stop' hlook
  obtain ⟨hcan, hstop, hstop'⟩ := hlook
  refine ⟨hcan, ?_⟩
  rw [hstop, hstop']

/-- A match puts back every pin that it sets. -/
theorem matchAt_repin_pinned (rule : Rule) (c : Cursor) :
    (g.matchAt rule c).repin c.pinned = g.matchAt rule c := by
  apply Outcome.repin_eq_self
  apply (g.matchAt_ensures rule c).mono
  intro verdict stop hanswer
  exact hanswer.attempts.sameFrame.pinned_eq

/-! ## Spacings -/

/-- The pin that an adjacent series sets for a part has nothing to hold back, and the blanks that a spaced
series skips are none. -/
theorem laterPart_adjacent_eq (h : c.NoBlankAhead) (part : Rule) :
    laterPart g.matchAt .adjacent part c = laterPart g.matchAt .spaced part c := by
  have hpin : g.matchAt part c.pin = (g.matchAt part c).repin (some c.offset) :=
    matchAt_repin h part (some c.offset)
  have hadjacent : laterPart g.matchAt .adjacent part c = (g.matchAt part c.pin).repin c.pinned := rfl
  have hspaced : laterPart g.matchAt .spaced part c = g.matchAt part c.skipBlanks.2 := rfl
  rw [hadjacent, hpin, Outcome.repin_repin, matchAt_repin_pinned, hspaced, h.skipBlanks_eq]

theorem laterParts_adjacent_eq (parts : List Rule) (h : c.NoBlankAhead) (mark textStart index : Nat) :
    laterParts g.matchAt .adjacent mark textStart index parts c
      = laterParts g.matchAt .spaced mark textStart index parts c := by
  induction parts generalizing c index with
  | nil => rfl
  | cons part parts ih =>
      rw [laterParts, laterParts, laterPart_adjacent_eq h]
      apply (laterPart_ensures (g.matchAt_ensures part) .spaced c).andThen_congr
      intro verdict stop hpass
      obtain ⟨run, hrun⟩ := hpass
      cases verdict with
      | ok text => exact ih (h.of_passes hrun) (index + 1)
      | error cause => rfl

theorem matchAt_adjacent_eq (parts : List Rule) (h : c.NoBlankAhead) :
    g.matchAt (.series .adjacent parts) c = g.matchAt (.series .spaced parts) c := by
  rw [matchAt_series, matchAt_series]
  cases parts with
  | nil => rfl
  | cons first others =>
      rw [matchSeries, matchSeries]
      apply (g.matchAt_ensures first c).andThen_congr
      intro verdict stop hanswer
      obtain ⟨run, hrun⟩ := hanswer.passes
      cases verdict with
      | ok text =>
          dsimp only
          rw [laterParts_adjacent_eq others (h.of_passes hrun)]
      | error cause => rfl

/-- Where no blank lies ahead, every pin does as well as any other: a match and a look ahead come to the same,
the text, the failure, the place and the log, with the pin that they started under.  And an adjacent series
comes to what the spaced series of the same parts does. -/
theorem only_blanks_tell_pins_and_spacings_apart (g : Grammar) {c : Cursor}
    (h : ∀ ch ∈ c.ahead, isBlank ch = false) :
    (∀ rule pinned, g.matchAt rule (c.repin pinned) = (g.matchAt rule c).repin pinned ∧
      g.mayMatch rule (c.repin pinned) = (g.mayMatch rule c).repin pinned) ∧
    ∀ parts, g.matchAt (.series .adjacent parts) c = g.matchAt (.series .spaced parts) c := by
  constructor
  · intro rule pinned
    exact ⟨matchAt_repin h rule pinned, mayMatch_repin h rule pinned⟩
  · intro parts
    exact matchAt_adjacent_eq parts h

/-- A bracketed list that is not closed fails in the same way if the cursor is pinned in front of it, or if its
parts have to follow each other directly. -/
theorem unclosed_list_without_blanks :
    (WordLists.grammar.matchAt WordLists.bracketed
        ((Cursor.start ['(', 'a', ',', 'b'] {}).repin (some 0))).value?
      = some (.error (.partFailed 2 (.endOfInput "')'" 4))) ∧
    (WordLists.grammar.mayMatch WordLists.bracketed
        ((Cursor.start ['(', 'a', ',', 'b'] {}).repin (some 0))).value? = some true ∧
    (WordLists.grammar.matchAt (.series .adjacent [.char '(', .ref WordLists.list, .char ')'])
        (Cursor.start ['(', 'a', ',', 'b'] {})).value?
      = some (.error (.partFailed 2 (.endOfInput "')'" 4))) := by
  have hnone : ∀ ch ∈ (Cursor.start ['(', 'a', ',', 'b'] {}).ahead, isBlank ch = false := by
    intro ch hch
    simp only [Cursor.start, List.mem_cons, List.not_mem_nil, or_false] at hch
    rcases hch with rfl | rfl | rfl | rfl <;> decide
  obtain ⟨hpins, hspacings⟩ := only_blanks_tell_pins_and_spacings_apart WordLists.grammar hnone
  rw [(hpins WordLists.bracketed (some 0)).1, (hpins WordLists.bracketed (some 0)).2, hspacings]
  decide +kernel

end Grammar

end RuleMatch
