import RuleMatch.Proofs.Budget

/-!
# When a keyword is matched

A keyword is matched if it stands behind the gap at the cursor and does not run into a longer word
(`keyword_matches_whole_words`).  What that means is said here of texts, without a word on how it is found
out.  A keyword runs into a longer word if it ends in a word character, if another word character follows,
and if the run of word characters that follows is not a row of further copies of the keyword.

Whether a text is such a row is decided by taking copies off its front for as long as there are any.  It does
not matter that a keyword may overlap with itself: where a copy stands in front of a text, it is the first of
the copies if the text is a row of them at all (`isCopies_iff`).
-/

namespace RuleMatch

namespace Text

/-! ## Rows of copies -/

/-- Taking off as many copies as there are, or more, leaves nothing of a row of copies. -/
theorem dropCopies_flatten_replicate (copy : Text) {n count : Nat} (h : n ≤ count) :
    dropCopies copy count (List.replicate n copy).flatten = [] := by
  induction count generalizing n with
  | zero =>
      obtain rfl : n = 0 := Nat.le_zero.1 h
      rfl
  | succ count ih =>
      cases n with
      | zero =>
          have hnone : dropCopies copy count [] = [] := ih (Nat.zero_le count)
          simp [dropCopies, hnone]
      | succ n =>
          have hfirst : (List.replicate (n + 1) copy).flatten
              = copy ++ (List.replicate n copy).flatten := by
            rw [List.replicate_succ, List.flatten_cons]
          have hprefix : copy.isPrefixOf (copy ++ (List.replicate n copy).flatten) = true :=
            List.isPrefixOf_iff_prefix.2 (List.prefix_append _ _)
          rw [hfirst, dropCopies, if_pos hprefix, List.drop_left]
          exact ih (Nat.le_of_succ_le_succ h)

/-- A text of which copies can be taken off until nothing is left is a row of copies. -/
theorem exists_replicate_of_dropCopies {copy text : Text} {count : Nat}
    (h : dropCopies copy count text = []) : ∃ n, text = (List.replicate n copy).flatten := by
  induction count generalizing text with
  | zero => exact ⟨0, h⟩
  | succ count ih =>
      rw [dropCopies] at h
      by_cases hprefix : copy.isPrefixOf text = true
      · rw [if_pos hprefix] at h
        obtain ⟨rest, rfl⟩ := List.isPrefixOf_iff_prefix.1 hprefix
        rw [List.drop_left] at h
        obtain ⟨n, rfl⟩ := ih h
        exact ⟨n + 1, by rw [List.replicate_succ, List.flatten_cons]⟩
      · rw [if_neg hprefix] at h
        exact ⟨0, h⟩

/-- A row has at least as many characters as copies. -/
theorem le_length_flatten_replicate {copy : Text} (h : copy ≠ []) (n : Nat) :
    n ≤ (List.replicate n copy).flatten.length := by
  have hpos : 1 ≤ copy.length := List.length_pos_iff.2 h
  calc
    n = n * 1 := (Nat.mul_one n).symm
    _ ≤ n * copy.length := Nat.mul_le_mul_left n hpos
    _ = (List.replicate n copy).flatten.length := by simp

/-- The test for copies finds out whether a text is a row of one copy or more. -/
theorem isCopies_iff {copy text : Text} :
    isCopies copy text = true ↔ copy ≠ [] ∧ ∃ n, 0 < n ∧ text = (List.replicate n copy).flatten := by
  simp only [isCopies, Bool.and_eq_true, Bool.not_eq_true', List.isEmpty_eq_false_iff,
    List.isEmpty_iff]
  constructor
  · rintro ⟨⟨hcopy, htext⟩, hdrop⟩
    obtain ⟨n, rfl⟩ := exists_replicate_of_dropCopies hdrop
    refine ⟨hcopy, n, Nat.pos_of_ne_zero ?_, rfl⟩
    rintro rfl
    exact htext rfl
  · rintro ⟨hcopy, n, hpos, rfl⟩
    have hlength := le_length_flatten_replicate hcopy n
    refine ⟨⟨hcopy, ?_⟩, dropCopies_flatten_replicate copy hlength⟩
    exact List.ne_nil_of_length_pos (by omega)

end Text

/-! ## Whole words -/

namespace Settings

/-- A keyword with `rest` behind it runs into a longer word. -/
structure RunsIntoWord (settings : Settings) (keyword rest : Text) : Prop where
  wordBoundary : settings.wordBoundary = true
  /-- The keyword is not empty and ends in a word character. -/
  ends : ∃ ch, keyword.getLast? = some ch ∧ settings.continuesWord ch = true
  /-- A word character follows. -/
  goesOn : ∃ ch, rest.head? = some ch ∧ settings.continuesWord ch = true
  /-- The longest run of word characters that follows is no row of copies. -/
  noCopies : ∀ n, 0 < n → rest.takeWhile settings.continuesWord ≠ (List.replicate n keyword).flatten

/-- A keyword stands at the front of a text and does not run into a longer word. -/
def StandsWhole (settings : Settings) (keyword ahead : Text) : Prop :=
  ∃ rest, ahead = keyword ++ rest ∧ ¬ settings.RunsIntoWord keyword rest

variable {settings : Settings} {keyword : Text}

theorem runsOn_iff {rest : Text} :
    settings.runsOn keyword rest = true ↔ settings.RunsIntoWord keyword rest := by
  have hcopies : (!Text.isCopies keyword (settings.wordRun rest)) = true ↔
      (keyword ≠ [] → ∀ n, 0 < n → settings.wordRun rest ≠ (List.replicate n keyword).flatten) := by
    rw [Bool.not_eq_true', ← Bool.not_eq_true, Text.isCopies_iff]
    constructor
    · intro hnone hkeyword n hpos hrun
      exact hnone ⟨hkeyword, n, hpos, hrun⟩
    · rintro hnone ⟨hkeyword, n, hpos, hrun⟩
      exact hnone hkeyword n hpos hrun
  simp only [runsOn, Bool.and_eq_true, hcopies, Option.any_eq_true]
  constructor
  · rintro ⟨⟨⟨hboundary, last, hlast, hword⟩, hnext⟩, hnone⟩
    -- A keyword with a last character is not empty, so the test for copies is not void.
    have hkeyword : keyword ≠ [] := by
      rintro rfl
      simp at hlast
    exact ⟨hboundary, ⟨last, hlast, hword⟩, hnext, hnone hkeyword⟩
  · rintro ⟨hboundary, hlast, hnext, hnone⟩
    exact ⟨⟨⟨hboundary, hlast⟩, hnext⟩, fun _ => hnone⟩

theorem keywordAtFront_of_standsWhole {ahead : Text} (h : settings.StandsWhole keyword ahead) :
    settings.keywordAtFront keyword ahead = some keyword := by
  obtain ⟨rest, rfl, hwhole⟩ := h
  have hruns : settings.runsOn keyword rest = false := by
    rw [← Bool.not_eq_true, runsOn_iff]
    exact hwhole
  simp [keywordAtFront, hruns]

theorem keywordAtFront_of_not_standsWhole {ahead : Text} (h : ¬ settings.StandsWhole keyword ahead) :
    settings.keywordAtFront keyword ahead = none := by
  rw [keywordAtFront]
  refine if_neg fun hfront => h ?_
  rw [Bool.and_eq_true, Bool.not_eq_true'] at hfront
  obtain ⟨rest, rfl⟩ := List.isPrefixOf_iff_prefix.1 hfront.1
  refine ⟨rest, rfl, fun hruns => ?_⟩
  have hno := hfront.2
  rw [List.drop_left, runsOn_iff.2 hruns] at hno
  exact absurd hno (by simp)

end Settings

namespace Grammar

variable {g : Grammar} {keyword : String} {c : Cursor}

theorem matchAt_keyword_of_standsWhole
    (h : c.settings.StandsWhole keyword.toList c.skipBlanks.2.ahead) :
    ∃ stop, g.matchAt (.keyword keyword) c = .finished (.ok keyword.toList) stop [] ∧
      c.skipBlanks.2.Passes keyword.toList stop := by
  have hlexeme : (Terminal.keyword keyword).lexeme? c.settings c.skipBlanks.2.ahead
      = some keyword.toList := Settings.keywordAtFront_of_standsWhole h
  exact matchAt_terminal_of_lexeme hlexeme

theorem matchAt_keyword_of_not_standsWhole
    (h : ¬ c.settings.StandsWhole keyword.toList c.skipBlanks.2.ahead) :
    g.matchAt (.keyword keyword) c
      = .finished (.error (.wrongKeyword keyword (c.skipBlanks.2.context keyword.toList.length)
          c.skipBlanks.2.offset)) c [] := by
  rw [← (Cursor.sameFrame_skipBlanks c).settings_eq] at h
  have hread : (Terminal.keyword keyword).read c = _ :=
    Cursor.readKeyword_of_no_front (Settings.keywordAtFront_of_not_standsWhole h)
  exact matchAt_terminal_of_error hread

/-- A keyword is matched, and the cursor ends behind it, exactly if it stands whole behind the gap at the
cursor.  If it does not, the match fails there, with a word about what stands in its place, and the cursor
has not moved. -/
theorem keyword_matches_whole_words (g : Grammar) (keyword : String) (c : Cursor) :
    ∃ entry, c.Passes c.gap entry ∧
      ((∃ stop log, g.matchAt (.keyword keyword) c = .finished (.ok keyword.toList) stop log ∧
          stop.offset = entry.offset + Text.byteLength keyword.toList) ↔
        c.settings.StandsWhole keyword.toList entry.ahead) ∧
      (¬ c.settings.StandsWhole keyword.toList entry.ahead →
        g.matchAt (.keyword keyword) c
          = .finished (.error (.wrongKeyword keyword (entry.context keyword.toList.length)
              entry.offset)) c []) := by
  refine ⟨c.skipBlanks.2, Cursor.passes_skipBlanks c, ⟨?_, ?_⟩, matchAt_keyword_of_not_standsWhole⟩
  · rintro ⟨stop, log, hmatch, -⟩
    by_contra hno
    rw [matchAt_keyword_of_not_standsWhole hno] at hmatch
    simp at hmatch
  · intro hwhole
    obtain ⟨stop, hmatch, hpass⟩ := matchAt_keyword_of_standsWhole (g := g) hwhole
    exact ⟨stop, [], hmatch, hpass.offset_eq⟩

/-- Copies of a keyword may follow it directly, but not the beginning of one more. -/
example :
    (matchAt {} (.keyword "abab") (Cursor.start [' ', 'a', 'b', 'a', 'b', 'a', 'b', 'a', 'b', '-'] {})).reading
        = .matched ['a', 'b', 'a', 'b'] 5 ∧
      (matchAt {} (.keyword "abab") (Cursor.start [' ', 'a', 'b', 'a', 'b', 'a', 'b', '-'] {})).value?
        = some (.error (.wrongKeyword "abab" "ababab-" 1)) := by
  decide +kernel

end Grammar

end RuleMatch
