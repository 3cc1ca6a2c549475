import RuleMatch.Cursor.Lemmas

/-!
# Passing text

`c.Passes run stop` says that the cursor `stop` is the cursor `c` after the text `run`: the same input,
pin and settings, and `run` in between.  From it follow the offset of `stop` and every piece of text that
can be cut out between the two.

Matching may skip blanks before what it matches.  It skips all of them or none, and none where the cursor
is pinned: `Cursor.gap` are the blanks that it may skip, and `Consumes` says that a text was matched
behind such a gap.
-/

namespace RuleMatch

namespace Cursor

/-- The cursor `stop` is the cursor `c` after `run`. -/
structure Passes (c : Cursor) (run : Text) (stop : Cursor) : Prop where
  frame : SameFrame c stop
  ahead_eq : c.ahead = run ++ stop.ahead

namespace Passes

variable {c d e : Cursor} {run more : Text}

theorem refl (c : Cursor) : c.Passes [] c := ⟨SameFrame.refl c, rfl⟩

theorem trans (h : c.Passes run d) (h' : d.Passes more e) : c.Passes (run ++ more) e := by
  refine ⟨h.frame.trans h'.frame, ?_⟩
  rw [h.ahead_eq, h'.ahead_eq, List.append_assoc]

/-- What is passed further adds to the text behind the blanks. -/
theorem trans_text {skipped text : Text} (h : c.Passes (skipped ++ text) d) (h' : d.Passes more e) :
    c.Passes (skipped ++ (text ++ more)) e := by
  rw [← List.append_assoc]
  exact h.trans h'

/-- What was passed lies behind. -/
theorem behind_eq (h : c.Passes run d) : d.behind = run.reverse ++ c.behind := by
  have hinput : d.behind.reverse ++ d.ahead = (c.behind.reverse ++ run) ++ d.ahead := by
    rw [List.append_assoc, ← h.ahead_eq]
    exact h.frame.input_eq
  have hbehind : d.behind.reverse = c.behind.reverse ++ run := List.append_cancel_right hinput
  rw [← List.reverse_reverse d.behind, hbehind, List.reverse_append, List.reverse_reverse]

theorem offset_eq (h : c.Passes run d) : d.offset = c.offset + Text.byteLength run := by
  rw [d.offset_eq, c.offset_eq, h.behind_eq, Text.byteLength_append, Text.byteLength_reverse,
    Nat.add_comm]

theorem offset_le (h : c.Passes run d) : c.offset ≤ d.offset := by
  rw [h.offset_eq]
  omega

theorem length_ahead (h : c.Passes run d) : c.ahead.length = run.length + d.ahead.length := by
  rw [h.ahead_eq, List.length_append]

/-- A cursor that has passed nothing is where it was. -/
theorem eq_of_nil (h : c.Passes [] d) : d = c :=
  h.frame.eq_of_offset (by simpa using h.offset_eq)

theorem run_eq_nil (h : c.Passes run d) (hoffset : d.offset = c.offset) : run = [] := by
  have hwidth := h.offset_eq
  exact Text.byteLength_eq_zero.1 (by omega)

/-- What lies between two cursors is one text. -/
theorem unique (h : c.Passes run d) (h' : c.Passes more d) : run = more :=
  List.append_cancel_right (h.ahead_eq.symm.trans h'.ahead_eq)

/-- There is one cursor behind a text. -/
theorem stop_unique (h : c.Passes run d) (h' : c.Passes run e) : d = e :=
  (h'.frame.symm.trans h.frame).eq_of_offset (h.offset_eq.trans h'.offset_eq.symm)

/-- What lies ahead behind the text that was passed. -/
theorem ahead_of_append {rest : Text} (h : c.Passes run d) (hahead : c.ahead = run ++ rest) :
    d.ahead = rest :=
  List.append_cancel_left (h.ahead_eq.symm.trans hahead)

/-- The text behind a first part of what was passed. -/
theorem textFrom_eq (h : c.Passes (run ++ more) d) :
    d.textFrom (c.offset + Text.byteLength run) = .ok more := by
  have hbehind : d.behind = more.reverse ++ (run.reverse ++ c.behind) := by
    rw [h.behind_eq, List.reverse_append, List.append_assoc]
  have hmark : c.offset + Text.byteLength run = Text.byteLength (run.reverse ++ c.behind) := by
    rw [Text.byteLength_append, Text.byteLength_reverse, c.offset_eq, Nat.add_comm]
  have hcut := retreat_append more.reverse (run.reverse ++ c.behind) []
  rw [← hbehind, ← d.offset_eq, ← hmark, List.reverse_reverse, List.append_nil] at hcut
  simp [textFrom, hcut]

/-- All of the text that was passed. -/
theorem textFrom_offset (h : c.Passes run d) : d.textFrom c.offset = .ok run := by
  have hpass : c.Passes ([] ++ run) d := h
  simpa using hpass.textFrom_eq

/-- A pin that was set for a while makes no difference once the former one is back. -/
theorem of_pin (h : c.pin.Passes run d) : c.Passes run (d.repin c.pinned) :=
  ⟨⟨h.frame.input_eq, rfl, h.frame.settings_eq⟩, h.ahead_eq⟩

end Passes

/-! ## Gaps -/

/-- The blanks that may be skipped where the cursor stands. -/
def gap (c : Cursor) : Text :=
  if c.maySkip then Text.blankRun c.ahead else []

/-- The text `text` was matched from `c` to `stop`, perhaps behind a gap. -/
def Consumes (c : Cursor) (text : Text) (stop : Cursor) : Prop :=
  ∃ skipped, (skipped = [] ∨ skipped = c.gap) ∧ c.Passes (skipped ++ text) stop

theorem Passes.consumes {c d : Cursor} {run : Text} (h : c.Passes run d) : c.Consumes run d :=
  ⟨[], .inl rfl, h⟩

theorem gap_of_pinned {c : Cursor} (h : c.pinned = some c.offset) : c.gap = [] := by
  simp [gap, maySkip, h]

/-- Where no blank follows, there is no gap. -/
theorem gap_of_no_blank {c : Cursor} (h : ∀ ch, c.ahead.head? = some ch → isBlank ch = false) :
    c.gap = [] := by
  have hnone : Text.blankRun c.ahead = [] := Text.blankRun_append (List.forall_mem_nil _) h
  simp [gap, hnone]

/-- A cursor without a pin may skip all the blanks that follow. -/
theorem gap_of_unpinned {c : Cursor} (hpinned : c.pinned = none) {blanks rest : Text}
    (hahead : c.ahead = blanks ++ rest) (hblanks : ∀ ch ∈ blanks, isBlank ch = true)
    (hrest : ∀ ch, rest.head? = some ch → isBlank ch = false) : c.gap = blanks := by
  simp [gap, maySkip, hpinned, hahead, Text.blankRun_append hblanks hrest]

theorem isBlank_of_mem_gap {c : Cursor} {ch : Char} (h : ch ∈ c.gap) : isBlank ch = true := by
  unfold gap at h
  split at h
  · exact Text.isBlank_of_mem_blankRun h
  · simp at h

/-! ## Reading -/

theorem passes_pass {c : Cursor} {ch : Char} {ahead : Text} (h : c.ahead = ch :: ahead) :
    c.Passes [ch] (c.pass ch ahead) :=
  ⟨sameFrame_pass h, h⟩

/-- Advancing passes as many characters as it is told to. -/
theorem passes_advance {c stop : Cursor} {count : Nat} (h : c.advance count = .ok stop) :
    c.Passes (c.ahead.take count) stop := by
  induction count generalizing c with
  | zero =>
      simp only [advance, Except.ok.injEq] at h
      exact h ▸ Passes.refl c
  | succ count ih =>
      cases hahead : c.ahead with
      | nil =>
          rw [advance_succ_of_nil hahead] at h
          cases h
      | cons ch ahead =>
          rw [advance_succ_of_cons hahead] at h
          rw [List.take_succ_cons]
          exact (passes_pass hahead).trans (ih h)

/-- A character is read if and only if it is accepted and comes next. -/
theorem readIf_eq_ok_iff {c stop : Cursor} {accepts : Char → Bool} {ch : Char} :
    c.readIf accepts = .ok (ch, stop) ↔ accepts ch = true ∧ c.Passes [ch] stop := by
  constructor
  · intro h
    cases hahead : c.ahead with
    | nil =>
        rw [readIf_of_nil hahead] at h
        cases h
    | cons next ahead =>
        rw [readIf_of_cons hahead] at h
        split at h
        · next haccepts =>
            cases h
            exact ⟨haccepts, passes_pass hahead⟩
        · cases h
  · rintro ⟨haccepts, hpass⟩
    have hahead : c.ahead = ch :: stop.ahead := hpass.ahead_eq
    rw [readIf_of_cons hahead, if_pos haccepts, (passes_pass hahead).stop_unique hpass]

/-- A read fails if and only if nothing that is accepted comes next. -/
theorem exists_readIf_eq_error_iff {c : Cursor} {accepts : Char → Bool} :
    (∃ failure, c.readIf accepts = .error failure) ↔
      ∀ ch, c.ahead.head? = some ch → accepts ch = false := by
  cases hahead : c.ahead with
  | nil => simp [readIf_of_nil hahead]
  | cons ch ahead =>
      rw [readIf_of_cons hahead]
      by_cases haccepts : accepts ch = true
      · simp [haccepts]
      · simp [haccepts]

theorem passes_passBlanks {c : Cursor} {ahead : Text} (h : c.ahead = ahead) :
    c.Passes (Text.blankRun ahead) (c.passBlanks ahead).2 := by
  induction ahead generalizing c with
  | nil => exact Passes.refl c
  | cons ch ahead ih =>
      simp only [passBlanks, Text.blankRun, List.takeWhile_cons]
      by_cases hblank : isBlank ch = true
      · simp only [hblank, if_true]
        have hrest : (c.pass ch ahead).Passes (Text.blankRun ahead)
            ((c.pass ch ahead).passBlanks ahead).2 := ih rfl
        exact (passes_pass h).trans hrest
      · simp only [hblank]
        exact Passes.refl c

/-- Skipping blanks passes the gap. -/
theorem passes_skipBlanks (c : Cursor) : c.Passes c.gap c.skipBlanks.2 := by
  unfold skipBlanks gap
  split
  · exact passes_passBlanks rfl
  · exact Passes.refl c

/-- Where there is no gap, nothing is skipped. -/
theorem skipBlanks_of_gap_eq_nil {c : Cursor} (h : c.gap = []) : c.skipBlanks = (0, c) := by
  by_cases hskip : c.maySkip = true
  · rw [gap, if_pos hskip] at h
    rw [skipBlanks, if_pos hskip]
    cases hahead : c.ahead with
    | nil => rfl
    | cons ch ahead =>
        have hblank : ¬ isBlank ch = true := by
          intro hblank
          rw [hahead, Text.blankRun, List.takeWhile_cons_of_pos hblank] at h
          cases h
        rw [passBlanks, if_neg hblank]
  · rw [skipBlanks, if_neg hskip]

/-- Behind a gap no other is left to skip. -/
theorem Passes.gap_eq_nil {c d : Cursor} (h : c.Passes c.gap d) : d.gap = [] := by
  by_cases hskip : c.maySkip = true
  · rw [gap, if_pos hskip] at h
    have hahead : d.ahead = Text.afterBlanks c.ahead :=
      h.ahead_of_append (Text.blankRun_append_afterBlanks c.ahead).symm
    rw [gap, hahead]
    split
    · exact Text.blankRun_afterBlanks c.ahead
    · rfl
  · rw [gap, if_neg hskip] at h
    rw [h.eq_of_nil, gap, if_neg hskip]

/-- Blanks are skipped once and for all. -/
theorem skipBlanks_skipBlanks (c : Cursor) : c.skipBlanks.2.skipBlanks = (0, c.skipBlanks.2) :=
  skipBlanks_of_gap_eq_nil c.passes_skipBlanks.gap_eq_nil

end Cursor

end RuleMatch
