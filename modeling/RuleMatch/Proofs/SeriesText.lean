import RuleMatch.Proofs.Budget
import RuleMatch.Proofs.WordLists

/-!
# The text of a series

The text of a series is cut out of the input at the end, by the offset where its first part's text starts.
Here it is put together from what its parts matched (`text_of_series`): the text of the first part, and
behind it that of each other part, with the gap in front of it if the series is spaced.  In an adjacent
series there are no gaps, so its text is that of its parts and nothing else.

If its first part is matched and the others run through behind it, then a series is matched, and with that
text (`matchAt_series_of_runThrough`).

A part behind the first is matched where no gap is left, either because the series has skipped it or because
the cursor is pinned there.  So it cannot skip blanks of its own, and what it matched is all that it passed.
-/

namespace RuleMatch

/-- What became of a part of a series behind its first. -/
structure PartRun where
  /-- The blanks that the series skipped in front of the part. -/
  gap : Text
  /-- Where the part was matched. -/
  start : Cursor
  /-- The text that the part matched. -/
  text : Text
  /-- Where the series went on behind the part. -/
  stop : Cursor

/-- What a part adds to the text of its series. -/
def PartRun.added (run : PartRun) : Text :=
  run.gap ++ run.text

namespace Grammar

/-- What a part comes to in a series if the part before it has ended at `c`.  A spaced series goes over the
gap there, which is empty if the cursor is pinned; an adjacent series stays, and pins the cursor for as long
as it matches the part. -/
inductive ComesTo (g : Grammar) : Spacing → Rule → Cursor → PartRun → Prop
  | spaced {part : Rule} {c start stop : Cursor} {text : Text} {log : List Event}
      (hgap : c.Passes c.gap start) (hmatch : g.matchAt part start = .finished (.ok text) stop log) :
      ComesTo g .spaced part c ⟨c.gap, start, text, stop⟩
  | adjacent {part : Rule} {c stop : Cursor} {text : Text} {log : List Event}
      (hmatch : g.matchAt part c.pin = .finished (.ok text) stop log) :
      ComesTo g .adjacent part c ⟨[], c.pin, text, stop.repin c.pinned⟩

/-- What parts come to one after the other, from where the part before them has ended to where the last of
them ends. -/
inductive RunThrough (g : Grammar) (spacing : Spacing) : List Rule → Cursor → List PartRun → Cursor → Prop
  | nil (c : Cursor) : RunThrough g spacing [] c [] c
  | cons {part : Rule} {parts : List Rule} {c stop : Cursor} {run : PartRun} {runs : List PartRun}
      (hpart : g.ComesTo spacing part c run) (hparts : g.RunThrough spacing parts run.stop runs stop) :
      RunThrough g spacing (part :: parts) c (run :: runs) stop

variable {g : Grammar} {spacing : Spacing}

/-- Where no blanks may be skipped, a match passes its text and nothing else. -/
theorem passes_of_matchAt {rule : Rule} {c stop : Cursor} {text : Text} {log : List Event}
    (h : g.matchAt rule c = .finished (.ok text) stop log) (hgap : c.gap = []) : c.Passes text stop := by
  obtain ⟨skipped, hskipped, hpass⟩ := answers_of_matchAt h
  have hnone : skipped = [] := by
    rcases hskipped with hempty | hwhole
    · exact hempty
    · rw [hwhole, hgap]
  rw [hnone] at hpass
  exact hpass

namespace ComesTo

variable {part : Rule} {c : Cursor} {run : PartRun}

theorem passes (h : g.ComesTo spacing part c run) : c.Passes run.added run.stop := by
  cases h with
  | spaced hgap hmatch => exact hgap.trans (passes_of_matchAt hmatch hgap.gap_eq_nil)
  | adjacent hmatch => exact (passes_of_matchAt hmatch (Cursor.gap_of_pinned rfl)).of_pin

theorem isBlank_of_mem_gap (h : g.ComesTo spacing part c run) {ch : Char} (hch : ch ∈ run.gap) :
    isBlank ch = true := by
  cases h with
  | spaced hgap hmatch => exact Cursor.isBlank_of_mem_gap hch
  | adjacent hmatch => simp at hch

theorem added_of_adjacent (h : g.ComesTo .adjacent part c run) : run.added = run.text := by
  cases h with
  | adjacent hmatch => rfl

end ComesTo

namespace RunThrough

variable {parts : List Rule} {c stop : Cursor} {runs : List PartRun}

theorem passes (h : g.RunThrough spacing parts c runs stop) :
    c.Passes (runs.flatMap PartRun.added) stop := by
  induction h with
  | nil c => exact Cursor.Passes.refl c
  | cons hpart _ ih =>
      rw [List.flatMap_cons]
      exact hpart.passes.trans ih

/-- In a spaced series a part is matched behind the gap where the part before it ended. -/
theorem of_cons_spaced {part : Rule} (h : g.RunThrough .spaced (part :: parts) c runs stop) :
    ∃ text next log others, g.matchAt part c.skipBlanks.2 = .finished (.ok text) next log ∧
      g.RunThrough .spaced parts next others stop ∧ runs = ⟨c.gap, c.skipBlanks.2, text, next⟩ :: others := by
  cases h with
  | cons hpart hparts =>
      cases hpart with
      | spaced hgap hmatch =>
          obtain rfl := (Cursor.passes_skipBlanks c).stop_unique hgap
          exact ⟨_, _, _, _, hmatch, hparts, rfl⟩

theorem isBlank_of_mem_gap (h : g.RunThrough spacing parts c runs stop) :
    ∀ run ∈ runs, ∀ ch ∈ run.gap, isBlank ch = true := by
  induction h with
  | nil c => simp
  | cons hpart _ ih => exact List.forall_mem_cons.2 ⟨fun _ hch => hpart.isBlank_of_mem_gap hch, ih⟩

theorem added_of_adjacent (h : g.RunThrough .adjacent parts c runs stop) :
    runs.flatMap PartRun.added = runs.flatMap PartRun.text := by
  induction h with
  | nil c => rfl
  | cons hpart _ ih => rw [List.flatMap_cons, List.flatMap_cons, hpart.added_of_adjacent, ih]

end RunThrough

/-- A later part that matches is matched where its spacing says. -/
theorem laterPart_comesTo (spacing : Spacing) (part : Rule) (c : Cursor) :
    (laterPart g.matchAt spacing part c).Ensures (fun _ => True) fun verdict stop =>
      ∀ text, verdict = .ok text → ∃ run, g.ComesTo spacing part c run ∧ run.stop = stop := by
  cases spacing with
  | spaced =>
      apply (g.matchAt part c.skipBlanks.2).ensures_self.mono
      rintro _ stop ⟨log, hmatch⟩ text rfl
      exact ⟨_, .spaced (Cursor.passes_skipBlanks c) hmatch, rfl⟩
  | adjacent =>
      apply (g.matchAt part c.pin).ensures_self.andThen
      rintro _ stop ⟨log, hmatch⟩ text rfl
      exact ⟨_, .adjacent hmatch, rfl⟩

/-- The series started at `start`, has skipped `skipped` and has matched `text` so far.  Its later parts run
through, and add to the text what they come to. -/
theorem laterParts_runThrough (parts : List Rule) {start c : Cursor} {skipped text : Text}
    (hstart : start.Passes (skipped ++ text) c) (index : Nat) :
    (laterParts g.matchAt spacing start.offset (start.offset + Text.byteLength skipped) index parts
        c).Ensures (fun _ => True) fun verdict stop =>
      ∀ whole, verdict = .ok whole →
        ∃ runs, g.RunThrough spacing parts c runs stop ∧ whole = text ++ runs.flatMap PartRun.added := by
  induction parts generalizing c text index with
  | nil =>
      rw [laterParts, Matching.upTo_eq hstart]
      rintro whole ⟨⟩
      exact ⟨[], .nil c, (List.append_nil text).symm⟩
  | cons part parts ih =>
      rw [laterParts_cons (fun d => g.matchAt_ensures part d) spacing hstart.frame]
      apply (laterPart_comesTo spacing part c).andThen
      intro verdict stop hverdict
      cases verdict with
      | ok partText =>
          obtain ⟨run, hrun, rfl⟩ := hverdict partText rfl
          apply (ih (hstart.trans_text hrun.passes) (index + 1)).mono
          intro verdict last hlast whole hwhole
          obtain ⟨runs, hruns, htext⟩ := hlast whole hwhole
          refine ⟨run :: runs, .cons hrun hruns, ?_⟩
          rw [htext, List.flatMap_cons, List.append_assoc]
      | error cause =>
          rintro whole ⟨⟩

/-- A series that matches has matched its first part, and then run through the others. -/
theorem matchAt_series_runThrough (spacing : Spacing) (first : Rule) (others : List Rule) (c : Cursor) :
    (g.matchAt (.series spacing (first :: others)) c).Ensures (fun _ => True) fun verdict stop =>
      ∀ text, verdict = .ok text → ∃ head behind headLog runs,
        g.matchAt first c = .finished (.ok head) behind headLog ∧
          g.RunThrough spacing others behind runs stop ∧ text = head ++ runs.flatMap PartRun.added := by
  rw [g.matchAt_series, matchSeries_cons (g.matchAt_ensures first c)]
  apply ((g.matchAt first c).ensures_self.and (g.matchAt_ensures first c)).andThen
  rintro verdict behind ⟨⟨headLog, hmatch⟩, hanswer⟩
  cases verdict with
  | ok head =>
      -- The text starts behind what the first part skipped.
      obtain ⟨skipped, -, hpass⟩ := hanswer
      dsimp only
      rw [hpass.textStart_eq.2]
      apply (laterParts_runThrough others hpass 1).mono
      intro verdict stop hverdict text htext
      obtain ⟨runs, hruns, happend⟩ := hverdict text htext
      exact ⟨head, behind, headLog, runs, hmatch, hruns, happend⟩
  | error cause =>
      rintro text ⟨⟩

/-! ## Series that match -/

theorem laterPart_of_comesTo {part : Rule} {c : Cursor} {run : PartRun} (h : g.ComesTo spacing part c run) :
    ∃ log, laterPart g.matchAt spacing part c = .finished (.ok run.text) run.stop log := by
  cases h with
  | spaced hgap hmatch =>
      obtain rfl := (Cursor.passes_skipBlanks c).stop_unique hgap
      exact ⟨_, hmatch⟩
  | adjacent hmatch =>
      rw [laterPart, hmatch, Outcome.finished_andThen]
      exact ⟨_, rfl⟩

/-- Later parts that run through are matched. -/
theorem laterParts_of_runThrough {parts : List Rule} {c stop : Cursor} {runs : List PartRun}
    (hruns : g.RunThrough spacing parts c runs stop) {start : Cursor} {skipped text : Text}
    (hstart : start.Passes (skipped ++ text) c) (index : Nat) :
    ∃ log, laterParts g.matchAt spacing start.offset (start.offset + Text.byteLength skipped) index parts c
      = .finished (.ok (text ++ runs.flatMap PartRun.added)) stop log := by
  induction hruns generalizing text index with
  | nil c =>
      rw [laterParts, Matching.upTo_eq hstart, List.flatMap_nil, List.append_nil]
      exact ⟨_, rfl⟩
  | cons hpart _ ih =>
      obtain ⟨log, hlater⟩ := laterPart_of_comesTo hpart
      obtain ⟨log', hrest⟩ := ih (hstart.trans_text hpart.passes) (index + 1)
      rw [laterParts_cons (fun d => g.matchAt_ensures _ d) spacing hstart.frame, hlater,
        Outcome.finished_andThen]
      dsimp only
      rw [hrest, List.flatMap_cons, List.append_assoc]
      exact ⟨_, rfl⟩

/-- A series is matched if its first part is and the others run through. -/
theorem matchAt_series_of_runThrough {first : Rule} {others : List Rule} {c behind stop : Cursor}
    {head : Text} {headLog : List Event} {runs : List PartRun}
    (hfirst : g.matchAt first c = .finished (.ok head) behind headLog)
    (hruns : g.RunThrough spacing others behind runs stop) :
    ∃ log, g.matchAt (.series spacing (first :: others)) c
      = .finished (.ok (head ++ runs.flatMap PartRun.added)) stop log := by
  obtain ⟨skipped, -, hpass⟩ := answers_of_matchAt hfirst
  obtain ⟨log, hothers⟩ := laterParts_of_runThrough hruns hpass 1
  rw [g.matchAt_series, matchSeries_cons (g.matchAt_ensures first c), hfirst, Outcome.finished_andThen]
  dsimp only
  rw [hpass.textStart_eq.2, hothers]
  exact ⟨_, rfl⟩

/-- A series fails where its first part fails. -/
theorem matchAt_series_of_first_fails {first : Rule} {c : Cursor} {cause : Failure} {log : List Event}
    (h : g.matchAt first c = .finished (.error cause) c log) (spacing : Spacing) (others : List Rule) :
    ∃ log', g.matchAt (.series spacing (first :: others)) c
      = .finished (.error (.partFailed 0 cause)) c log' := by
  rw [g.matchAt_series, matchSeries_cons (g.matchAt_ensures first c), h, Outcome.finished_andThen]
  exact ⟨_, rfl⟩

/-- If a series matches, then its first part has matched where the series started, and the other parts have
matched one after the other up to where it ends.  Its text is that of its parts in order, with the gaps of
a spaced series in between.  These are blanks, and nothing else was passed behind the first part; in an
adjacent series there are none. -/
theorem text_of_series {first : Rule} {others : List Rule} {c stop : Cursor} {text : Text}
    {log : List Event}
    (h : g.matchAt (.series spacing (first :: others)) c = .finished (.ok text) stop log) :
    ∃ head behind headLog runs,
      g.matchAt first c = .finished (.ok head) behind headLog ∧
        g.RunThrough spacing others behind runs stop ∧
        text = head ++ runs.flatMap PartRun.added ∧
        behind.Passes (runs.flatMap PartRun.added) stop ∧
        (∀ run ∈ runs, ∀ ch ∈ run.gap, isBlank ch = true) ∧
        (spacing = .adjacent → text = head ++ runs.flatMap PartRun.text) := by
  have hensures := g.matchAt_series_runThrough spacing first others c
  rw [h] at hensures
  obtain ⟨head, behind, headLog, runs, hfirst, hruns, htext⟩ := hensures text rfl
  refine ⟨head, behind, headLog, runs, hfirst, hruns, htext, hruns.passes, hruns.isBlank_of_mem_gap, ?_⟩
  rintro rfl
  rw [htext, hruns.added_of_adjacent]

/-- The text of a bracketed list has the blanks between the parts of the list, and not the one in front. -/
theorem text_of_spaced_brackets :
    ∃ stop log, WordLists.grammar.matchAt WordLists.bracketed
        (Cursor.start [' ', '(', ' ', 'a', '\n', ' ', ')'] {})
          = .finished (.ok ['(', ' ', 'a', '\n', ' ', ')']) stop log ∧
      ∃ head behind headLog runs,
        WordLists.grammar.matchAt (.char '(') (Cursor.start [' ', '(', ' ', 'a', '\n', ' ', ')'] {})
            = .finished (.ok head) behind headLog ∧
          WordLists.grammar.RunThrough .spaced [.ref WordLists.list, .char ')'] behind runs stop ∧
          ['(', ' ', 'a', '\n', ' ', ')'] = head ++ runs.flatMap PartRun.added ∧
          ∀ run ∈ runs, ∀ ch ∈ run.gap, isBlank ch = true := by
  have hreading : (WordLists.grammar.matchAt WordLists.bracketed
      (Cursor.start [' ', '(', ' ', 'a', '\n', ' ', ')'] {})).reading
        = .matched ['(', ' ', 'a', '\n', ' ', ')'] 7 := by
    decide +kernel
  obtain ⟨stop, log, h, -⟩ := Outcome.reading_eq_matched_iff.1 hreading
  obtain ⟨head, behind, headLog, runs, hfirst, hruns, htext, -, hblank, -⟩ := text_of_series h
  exact ⟨stop, log, h, head, behind, headLog, runs, hfirst, hruns, htext, hblank⟩

end Grammar

end RuleMatch
