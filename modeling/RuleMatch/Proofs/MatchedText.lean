import RuleMatch.Proofs.Calls
import RuleMatch.Proofs.WordLists

/-!
# Where a match leaves the cursor

The two laws of a single match.  `span_of_matchAt_ok` says which text was passed if the match succeeds: the
matched text, behind blanks that are either all blanks at the cursor or none.  `cursor_after_matching` says
what else may have changed: nothing at all after a failure or a look ahead, and nothing but the offset after
a success.
-/

namespace RuleMatch

namespace Grammar

variable {g : Grammar} {rule : Rule} {c : Cursor}

/-- What lies between the places before and after a match is its text behind a gap, and the gap is empty
if the cursor was pinned where it stood. -/
theorem span_of_matchAt_ok {stop : Cursor} {text : Text} {log : List Event}
    (h : g.matchAt rule c = .finished (.ok text) stop log) :
    c.offset ≤ stop.offset ∧ stop.offset ≤ Text.byteLength c.input ∧
      Text.IsBoundary stop.offset c.input ∧
      ∃ blanks, stop.textFrom c.offset = .ok (blanks ++ text) ∧
        (∀ ch ∈ blanks, isBlank ch = true) ∧
        (blanks = [] ∨ blanks = Text.blankRun c.ahead) ∧
        (c.pinned = some c.offset → blanks = []) := by
  have hensures := g.matchAt_ensures rule c
  rw [h] at hensures
  obtain ⟨blanks, hblanks, hpass⟩ := hensures
  have hinput : stop.input = c.input := hpass.frame.input_eq
  refine ⟨hpass.offset_le, hinput ▸ stop.offset_le_byteLength, hinput ▸ stop.isBoundary_offset, blanks,
    hpass.textFrom_offset, ?_, ?_, ?_⟩
  · intro ch hch
    rcases hblanks with rfl | rfl
    · simp at hch
    · exact Cursor.isBlank_of_mem_gap hch
  · rcases hblanks with hempty | hgap
    · exact .inl hempty
    · rw [Cursor.gap] at hgap
      split at hgap
      · exact .inr hgap
      · exact .inl hgap
  · intro hpinned
    rcases hblanks with hempty | hgap
    · exact hempty
    · rw [hgap, Cursor.gap_of_pinned hpinned]

/-- The blank in front of a bracketed list is no part of its text; those inside are. -/
theorem span_of_bracketed_list :
    ∃ stop log, WordLists.grammar.matchAt WordLists.bracketed
        (Cursor.start [' ', '(', 'a', ',', ' ', 'b', ')', 'c'] {})
          = .finished (.ok ['(', 'a', ',', ' ', 'b', ')']) stop log ∧
      stop.offset = 7 ∧
      ∃ blanks, stop.textFrom 0 = .ok (blanks ++ ['(', 'a', ',', ' ', 'b', ')']) ∧
        ∀ ch ∈ blanks, isBlank ch = true := by
  have hreading : (WordLists.grammar.matchAt WordLists.bracketed
      (Cursor.start [' ', '(', 'a', ',', ' ', 'b', ')', 'c'] {})).reading
        = .matched ['(', 'a', ',', ' ', 'b', ')'] 7 := by
    decide +kernel
  obtain ⟨stop, log, h, hoffset⟩ := Outcome.reading_eq_matched_iff.1 hreading
  obtain ⟨-, -, -, blanks, htext, hblank, -⟩ := span_of_matchAt_ok h
  exact ⟨stop, log, h, hoffset, blanks, htext, hblank⟩

/-- A failed match and a look ahead leave the cursor as it was; a match that succeeds leaves it in the same
text with the same pin and settings. -/
theorem cursor_after_matching (g : Grammar) (rule : Rule) (c : Cursor) :
    (∀ failure stop log, g.matchAt rule c = .finished (.error failure) stop log → stop = c) ∧
      (∀ text stop log, g.matchAt rule c = .finished (.ok text) stop log →
        stop.input = c.input ∧ stop.pinned = c.pinned ∧ stop.settings = c.settings) ∧
      ∀ can stop log, g.mayMatch rule c = .finished can stop log → stop = c := by
  have hmatch := g.matchAt_ensures rule c
  have hlook := g.mayMatch_ensures rule c
  refine ⟨?_, ?_, ?_⟩
  · intro failure stop log h
    rw [h] at hmatch
    exact hmatch
  · intro text stop log h
    rw [h] at hmatch
    obtain ⟨skipped, -, hpass⟩ := hmatch
    exact ⟨hpass.frame.input_eq, hpass.frame.pinned_eq, hpass.frame.settings_eq⟩
  · intro can stop log h
    rw [h] at hlook
    exact hlook

/-- A list without its closing parenthesis is expected to match, and is given back when it does not. -/
theorem cursor_after_unclosed_list :
    (∃ failure stop log, WordLists.grammar.matchAt WordLists.bracketed
        (Cursor.start [' ', '(', 'a', ',', ' ', 'b'] {}) = .finished (.error failure) stop log ∧
      stop = Cursor.start [' ', '(', 'a', ',', ' ', 'b'] {}) ∧
      ∃ stop log, WordLists.grammar.mayMatch WordLists.bracketed
          (Cursor.start [' ', '(', 'a', ',', ' ', 'b'] {}) = .finished true stop log ∧
        stop = Cursor.start [' ', '(', 'a', ',', ' ', 'b'] {} := by
  obtain ⟨hfailed, -, hlook⟩ := cursor_after_matching WordLists.grammar WordLists.bracketed
    (Cursor.start [' ', '(', 'a', ',', ' ', 'b'] {})
  have hreading : (WordLists.grammar.matchAt WordLists.bracketed
      (Cursor.start [' ', '(', 'a', ',', ' ', 'b'] {})).reading = .failed := by
    decide +kernel
  have hvalue : (WordLists.grammar.mayMatch WordLists.bracketed
      (Cursor.start [' ', '(', 'a', ',', ' ', 'b'] {})).value? = some true := by
    decide +kernel
  obtain ⟨failure, stop, log, h⟩ := Outcome.reading_eq_failed_iff.1 hreading
  obtain ⟨stop', log', h'⟩ := Outcome.value?_eq_some_iff.1 hvalue
  exact ⟨⟨failure, stop, log, h, hfailed failure stop log h⟩, stop', log', h', hlook true stop' log' h'⟩

end Grammar

end RuleMatch
