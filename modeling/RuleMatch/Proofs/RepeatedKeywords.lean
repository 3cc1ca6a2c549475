import RuleMatch.Proofs.Keywords
import RuleMatch.Proofs.Repetition

/-!
# Repeated keywords

A keyword does not run into a longer word if copies of it follow up to the end of the word.  Whether they do
is decided at the first copy, with a look at the whole rest of the word, and decided anew at each copy behind
it.  The decisions agree: if the first copy is matched in front of a word character, then the others are
matched as well, one directly behind the other (`copies_matched`).  So a repetition of a keyword does not
end inside a word (`repeated_keyword_ends_word`).

The keyword may not start with a blank here.  Blanks may be word characters, and a copy that starts with one
is not found behind the gap that it is part of.
-/

namespace RuleMatch

/-- What the longest run of a text starts with, the text starts with, and the run goes on behind it. -/
theorem Text.takeWhile_eq_append {accepts : Char → Bool} {text word more : Text}
    (h : text.takeWhile accepts = word ++ more) :
    ∃ rest, text = word ++ rest ∧ rest.takeWhile accepts = more := by
  have hword : ∀ ch ∈ word, accepts ch = true := by
    intro ch hch
    have hrun : ch ∈ text.takeWhile accepts := by
      rw [h]
      exact List.mem_append_left more hch
    exact List.all_eq_true.1 List.all_takeWhile ch hrun
  have hprefix : word <+: text.takeWhile accepts := by
    rw [h]
    exact List.prefix_append word more
  obtain ⟨rest, rfl⟩ := hprefix.trans (List.takeWhile_prefix accepts)
  rw [List.takeWhile_append_of_pos hword] at h
  exact ⟨rest, rfl, List.append_cancel_left h⟩

namespace Grammar

variable {g : Grammar} {keyword : String} {c stop : Cursor} {text : Text} {log : List Event}

/-- A keyword that was matched is the text in front of where the match ends, and it does not run into a
longer word there. -/
theorem keyword_of_matchAt_ok (h : g.matchAt (.keyword keyword) c = .finished (.ok text) stop log) :
    text = keyword.toList ∧ c.Passes (c.gap ++ keyword.toList) stop ∧
      ¬ c.settings.RunsIntoWord keyword.toList stop.ahead := by
  by_cases hwhole : c.settings.StandsWhole keyword.toList c.skipBlanks.2.ahead
  · obtain ⟨behind, hmatch, hpass⟩ := matchAt_keyword_of_standsWhole (g := g) hwhole
    rw [hmatch] at h
    simp only [Outcome.finished.injEq, Except.ok.injEq] at h
    obtain ⟨rfl, rfl, -⟩ := h
    obtain ⟨rest, hahead, hruns⟩ := hwhole
    rw [hpass.ahead_of_append hahead]
    exact ⟨rfl, (Cursor.passes_skipBlanks c).trans hpass, hruns⟩
  · rw [matchAt_keyword_of_not_standsWhole hwhole] at h
    simp at h

/-- A keyword that was matched in front of a word character has copies of it up to the end of the word. -/
theorem copies_of_matchAt_ok (hboundary : c.settings.wordBoundary = true)
    (hends : ∃ ch, keyword.toList.getLast? = some ch ∧ c.settings.continuesWord ch = true)
    (h : g.matchAt (.keyword keyword) c = .finished (.ok text) stop log)
    (hgoesOn : ∃ ch, stop.ahead.head? = some ch ∧ c.settings.continuesWord ch = true) :
    ∃ n, stop.settings.wordRun stop.ahead = (List.replicate (n + 1) keyword.toList).flatten := by
  obtain ⟨-, hpass, hruns⟩ := keyword_of_matchAt_ok h
  rw [hpass.frame.settings_eq]
  by_contra hno
  refine hruns ⟨hboundary, hends, hgoesOn, ?_⟩
  intro count hpos hcopies
  obtain ⟨n, rfl⟩ := Nat.exists_eq_succ_of_ne_zero (Nat.ne_of_gt hpos)
  exact hno ⟨n, hcopies⟩

/-- Where the rest of a word is a row of copies, the first of them is matched. -/
theorem matchAt_keyword_of_copies (hfirst : ∃ ch, keyword.toList.head? = some ch ∧ isBlank ch = false)
    {n : Nat} (h : c.settings.wordRun c.ahead = (List.replicate (n + 1) keyword.toList).flatten) :
    ∃ next, g.matchAt (.keyword keyword) c = .finished (.ok keyword.toList) next [] ∧
      c.Passes keyword.toList next ∧
      next.settings.wordRun next.ahead = (List.replicate n keyword.toList).flatten := by
  rw [List.replicate_succ, List.flatten_cons] at h
  obtain ⟨rest, hahead, hrest⟩ := Text.takeWhile_eq_append h
  have hgap : c.gap = [] := by
    obtain ⟨first, hhead, hblank⟩ := hfirst
    apply Cursor.gap_of_no_blank
    intro ch hch
    rw [hahead, List.head?_append, hhead] at hch
    obtain rfl : first = ch := by simpa using hch
    exact hblank
  have hstay : c.skipBlanks.2 = c := (hgap ▸ Cursor.passes_skipBlanks c).eq_of_nil
  have hwhole : c.settings.StandsWhole keyword.toList c.skipBlanks.2.ahead := by
    rw [hstay]
    refine ⟨rest, hahead, ?_⟩
    intro hruns
    cases n with
    | zero =>
        -- No word character follows the last copy.
        obtain ⟨ch, hch, hword⟩ := hruns.goesOn
        cases rest with
        | nil => simp at hch
        | cons next rest =>
            obtain rfl : next = ch := by simpa using hch
            simp [hword] at hrest
    | succ n => exact hruns.noCopies (n + 1) (Nat.succ_pos n) hrest
  obtain ⟨next, hmatch, hpass⟩ := matchAt_keyword_of_standsWhole (g := g) hwhole
  rw [hstay] at hpass
  refine ⟨next, hmatch, hpass, ?_⟩
  rw [hpass.frame.settings_eq, hpass.ahead_of_append hahead]
  exact hrest

/-- Where the rest of a word is a row of copies, all of them are matched, one behind the other. -/
theorem copies_matched (hfirst : ∃ ch, keyword.toList.head? = some ch ∧ isBlank ch = false) {n : Nat}
    (h : c.settings.wordRun c.ahead = (List.replicate n keyword.toList).flatten) {k : Nat} (hk : k < n) :
    ∃ d next, c.Passes (List.replicate k keyword.toList).flatten d ∧
      g.matchAt (.keyword keyword) d = .finished (.ok keyword.toList) next [] ∧
      d.Passes keyword.toList next := by
  induction k generalizing c n with
  | zero =>
      obtain ⟨m, rfl⟩ := Nat.exists_eq_succ_of_ne_zero (Nat.ne_of_gt hk)
      obtain ⟨next, hmatch, hpass, -⟩ := matchAt_keyword_of_copies (g := g) hfirst h
      exact ⟨c, next, Cursor.Passes.refl c, hmatch, hpass⟩
  | succ k ih =>
      obtain ⟨m, rfl⟩ := Nat.exists_eq_succ_of_ne_zero (Nat.ne_zero_of_lt hk)
      obtain ⟨behind, -, hpass, hcopies⟩ := matchAt_keyword_of_copies (g := g) hfirst h
      obtain ⟨d, next, hbefore, hmatch, hcopy⟩ := ih hcopies (Nat.lt_of_succ_lt_succ hk)
      refine ⟨d, next, ?_, hmatch, hcopy⟩
      rw [List.replicate_succ, List.flatten_cons]
      exact hpass.trans hbefore

theorem not_nullable_keyword (hkeyword : keyword.toList ≠ []) : ¬ g.Nullable (.keyword keyword) := by
  rintro ⟨⟩
  exact hkeyword rfl

/-- Where a repetition of a keyword ends, the last of its matches ends, and the keyword fails. -/
theorem last_of_oneOrMore_keyword (hkeyword : keyword.toList ≠ [])
    (h : g.matchAt (.oneOrMore (.keyword keyword)) c = .finished (.ok text) stop log) :
    g.FailsAt (.keyword keyword) stop ∧
      ∃ d run copy log', c.Passes run d ∧
        g.matchAt (.keyword keyword) d = .finished (.ok copy) stop log' := by
  have hensures := g.matchAt_oneOrMore_ensures_rounds (.keyword keyword) c
  rw [h] at hensures
  obtain ⟨hmatches, -, hrounds, hstill⟩ := hensures
  have hfails := hstill.failsAt (not_nullable_keyword hkeyword)
  refine ⟨hfails, ?_⟩
  rcases hrounds.last with rfl | hlast
  · exact absurd hfails hmatches
  · exact hlast

/-- A repetition of a keyword ends where no word character follows.  If the keyword is matched in front of a
word character, then the rest of the word is a row of copies of it, and wherever some of them are passed, the
next one is matched right there.  This is so for a keyword that does not start with a blank and ends in a word
character, if keywords are to end at the boundary of a word. -/
theorem repeated_keyword_ends_word (g : Grammar) (keyword : String) (c : Cursor)
    (hboundary : c.settings.wordBoundary = true)
    (hfirst : ∃ ch, keyword.toList.head? = some ch ∧ isBlank ch = false)
    (hends : ∃ ch, keyword.toList.getLast? = some ch ∧ c.settings.continuesWord ch = true) :
    (∀ text stop log, g.matchAt (.oneOrMore (.keyword keyword)) c = .finished (.ok text) stop log →
      ∀ ch, stop.ahead.head? = some ch → c.settings.continuesWord ch = false) ∧
      ∀ text stop log, g.matchAt (.keyword keyword) c = .finished (.ok text) stop log →
        (∃ ch, stop.ahead.head? = some ch ∧ c.settings.continuesWord ch = true) →
        ∃ n, 0 < n ∧ c.settings.wordRun stop.ahead = (List.replicate n keyword.toList).flatten ∧
          ∀ k < n, ∃ d next, stop.Passes (List.replicate k keyword.toList).flatten d ∧
            g.matchAt (.keyword keyword) d = .finished (.ok keyword.toList) next [] ∧
            d.Passes keyword.toList next := by
  have hkeyword : keyword.toList ≠ [] := by
    obtain ⟨ch, hch, -⟩ := hfirst
    intro hnil
    simp [hnil] at hch
  constructor
  · intro text stop log h ch hch
    obtain ⟨hfails, d, run, copy, log', hrun, hmatch⟩ := last_of_oneOrMore_keyword hkeyword h
    rw [← hrun.frame.settings_eq] at hboundary hends ⊢
    by_contra hword
    have hgoesOn : ∃ ch, stop.ahead.head? = some ch ∧ d.settings.continuesWord ch = true :=
      ⟨ch, hch, by simpa using hword⟩
    -- There is another copy, so the repetition would have gone on.
    obtain ⟨n, hcopies⟩ := copies_of_matchAt_ok hboundary hends hmatch hgoesOn
    obtain ⟨next, hagain, -⟩ := matchAt_keyword_of_copies (g := g) hfirst hcopies
    exact not_failsAt_of_ok hagain hfails
  · intro text stop log h hgoesOn
    obtain ⟨n, hcopies⟩ := copies_of_matchAt_ok hboundary hends h hgoesOn
    obtain ⟨-, hpass, -⟩ := keyword_of_matchAt_ok h
    refine ⟨n + 1, Nat.succ_pos n, ?_, ?_⟩
    · rw [← hpass.frame.settings_eq]
      exact hcopies
    · intro k hk
      exact copies_matched hfirst hcopies hk

/-- Three copies make a word, of which the repetition takes all, and the keyword by itself the first. -/
theorem repeated_keyword_in_row :
    (∃ stop log, matchAt {} (.oneOrMore (.keyword "ab")) (Cursor.start ['a', 'b', 'a', 'b', 'a', 'b', '-'] {})
        = .finished (.ok ['a', 'b', 'a', 'b', 'a', 'b']) stop log ∧
      ∀ ch, stop.ahead.head? = some ch → ({} : Settings).continuesWord ch = false) ∧
      ∃ stop log, matchAt {} (.keyword "ab") (Cursor.start ['a', 'b', 'a', 'b', 'a', 'b', '-'] {})
          = .finished (.ok ['a', 'b']) stop log ∧
        ∃ n, 0 < n ∧ ({} : Settings).wordRun stop.ahead = (List.replicate n ['a', 'b']).flatten ∧
          ∀ k < n, ∃ d next, stop.Passes (List.replicate k ['a', 'b']).flatten d ∧
            matchAt {} (.keyword "ab") d = .finished (.ok ['a', 'b']) next [] ∧ d.Passes ['a', 'b'] next := by
  obtain ⟨hrepeated, hcopies⟩ := repeated_keyword_ends_word {} "ab"
    (Cursor.start ['a', 'b', 'a', 'b', 'a', 'b', '-'] {}) rfl ⟨'a', rfl, rfl⟩ ⟨'b', rfl, rfl⟩
  have hall : (matchAt {} (.oneOrMore (.keyword "ab"))
      (Cursor.start ['a', 'b', 'a', 'b', 'a', 'b', '-'] {})).reading
        = .matched ['a', 'b', 'a', 'b', 'a', 'b'] 6 := by
    decide +kernel
  have hfirst : (matchAt {} (.keyword "ab") (Cursor.start ['a', 'b', 'a', 'b', 'a', 'b', '-'] {})).reading
      = .matched ['a', 'b'] 2 := by
    decide +kernel
  obtain ⟨stop, log, hmatch, -⟩ := Outcome.reading_eq_matched_iff.1 hall
  obtain ⟨next, log', hmatch', -⟩ := Outcome.reading_eq_matched_iff.1 hfirst
  have hahead : ['a', 'b', 'a', 'b', 'a', 'b', '-'] = ['a', 'b'] ++ next.ahead :=
    (keyword_of_matchAt_ok hmatch').2.1.ahead_eq
  have hgoesOn : ∃ ch, next.ahead.head? = some ch ∧ ({} : Settings).continuesWord ch = true := by
    simp only [List.cons_append, List.nil_append, List.cons.injEq, true_and] at hahead
    rw [← hahead]
    exact ⟨'a', rfl, rfl⟩
  exact ⟨⟨stop, log, hmatch, hrepeated _ _ _ hmatch⟩, next, log', hmatch', hcopies _ _ _ hmatch' hgoesOn⟩

end Grammar

end RuleMatch
