import RuleMatch.Match.Terminal
import RuleMatch.Proofs.Passing

/-!
# What terminals read

A terminal either reads a piece of text, its lexeme, at one place of the input, or fails there.  Whether it
does depends on the settings and on the text ahead alone: `Terminal.lexeme?`.  The place is where the
cursor stands, or behind the gap there if the terminal skips blanks: `Terminal.entry`.  The two laws
`read_of_lexeme` and `read_of_no_lexeme` say all about `Terminal.read` except how a failure is worded.
-/

namespace RuleMatch

/-- The first character of a text, if it satisfies `accepts`. -/
def Text.charAtFront (accepts : Char → Bool) : Text → Option Text
  | [] => none
  | ch :: _ => if accepts ch then some [ch] else none

theorem Text.charAtFront_eq_some_iff {accepts : Char → Bool} {ahead text : Text} :
    Text.charAtFront accepts ahead = some text ↔
      ∃ ch rest, ahead = ch :: rest ∧ accepts ch = true ∧ text = [ch] := by
  cases ahead with
  | nil => simp [Text.charAtFront]
  | cons ch rest =>
      rw [Text.charAtFront]
      constructor
      · intro h
        by_cases haccepts : accepts ch = true
        · exact ⟨ch, rest, rfl, haccepts, by simpa [haccepts] using h.symm⟩
        · simp [haccepts] at h
      · rintro ⟨next, rest', hahead, haccepts, rfl⟩
        obtain ⟨rfl, rfl⟩ := List.cons.inj hahead
        exact if_pos haccepts

theorem Text.charAtFront_eq_none_iff {accepts : Char → Bool} {ahead : Text} :
    Text.charAtFront accepts ahead = none ↔ ∀ ch, ahead.head? = some ch → accepts ch = false := by
  cases ahead with
  | nil => simp [Text.charAtFront]
  | cons ch rest => simp [Text.charAtFront]

/-- A keyword at the front of a text, unless it runs on into a longer word. -/
def Settings.keywordAtFront (settings : Settings) (keyword ahead : Text) : Option Text :=
  if keyword.isPrefixOf ahead && !settings.runsOn keyword (ahead.drop keyword.length) then some keyword
  else none

namespace Terminal

/-- Whether blanks may stand in front of a terminal. -/
def skipsBlanks : Terminal → Bool
  | .char _ => true
  | .keyword _ => true
  | _ => false

/-- What a terminal reads from the text ahead. -/
def lexeme? (settings : Settings) : Terminal → Text → Option Text
  | .digit => Text.charAtFront Char.isDigit
  | .letter => Text.charAtFront Char.isAlpha
  | .blank => Text.charAtFront isBlank
  | .char c => Text.charAtFront (· == c)
  | .keyword text => settings.keywordAtFront text.toList

/-- The cursor at the place where a terminal reads. -/
def entry (terminal : Terminal) (c : Cursor) : Cursor :=
  if terminal.skipsBlanks then c.skipBlanks.2 else c

theorem passes_entry (terminal : Terminal) (c : Cursor) :
    c.Passes (if terminal.skipsBlanks then c.gap else []) (terminal.entry c) := by
  unfold entry
  split
  · exact Cursor.passes_skipBlanks c
  · exact Cursor.Passes.refl c

end Terminal

namespace Cursor

theorem readChar_of_front {c : Cursor} {accepts : Char → Bool} {text : Text} (expected : String)
    (h : Text.charAtFront accepts c.ahead = some text) :
    ∃ stop, c.readChar expected accepts = (.ok text, stop) ∧ c.Passes text stop := by
  obtain ⟨ch, ahead, hahead, haccepts, rfl⟩ := Text.charAtFront_eq_some_iff.1 h
  exact ⟨c.pass ch ahead, by simp [readChar, readIf, hahead, haccepts], passes_pass hahead⟩

theorem readChar_of_no_front {c : Cursor} {accepts : Char → Bool} (expected : String)
    (h : Text.charAtFront accepts c.ahead = none) :
    ∃ failure, c.readChar expected accepts = (.error failure, c) := by
  cases hahead : c.ahead with
  | nil => exact ⟨_, by simp [readChar, readIf, hahead]; rfl⟩
  | cons ch ahead =>
      have hrefused := Text.charAtFront_eq_none_iff.1 h ch (by rw [hahead]; rfl)
      exact ⟨_, by simp [readChar, readIf, hahead, hrefused]; rfl⟩

/-- Passing a text that lies ahead cannot fail. -/
theorem advance_of_append {c : Cursor} {text rest : Text} (h : c.ahead = text ++ rest) :
    ∃ stop, c.advance text.length = .ok stop ∧ c.Passes text stop := by
  induction text generalizing c with
  | nil => exact ⟨c, rfl, Passes.refl c⟩
  | cons ch text ih =>
      have hahead : c.ahead = ch :: (text ++ rest) := h
      have hrest : (c.pass ch (text ++ rest)).ahead = text ++ rest := rfl
      obtain ⟨stop, hstop, hpass⟩ := ih hrest
      refine ⟨stop, ?_, (passes_pass hahead).trans hpass⟩
      rw [List.length_cons, advance_succ_of_cons hahead]
      exact hstop

theorem readKeyword_of_front {c : Cursor} {keyword : String} {text : Text}
    (h : c.settings.keywordAtFront keyword.toList c.ahead = some text) :
    ∃ stop, c.readKeyword keyword = (.ok text, stop) ∧ c.Passes text stop := by
  unfold Settings.keywordAtFront at h
  split at h
  · next hfront =>
      simp only [Option.some.injEq] at h
      subst h
      simp only [Bool.and_eq_true, Bool.not_eq_true'] at hfront
      obtain ⟨rest, hrest⟩ := List.isPrefixOf_iff_prefix.1 hfront.1
      obtain ⟨stop, hadvance, hpass⟩ := advance_of_append hrest.symm
      have hbehind : stop.ahead = c.ahead.drop keyword.toList.length := by
        rw [hpass.ahead_eq, List.drop_left]
      refine ⟨stop, ?_, hpass⟩
      simp only [readKeyword, startsWith, hfront.1, hadvance, hbehind, hfront.2, if_true]
      rfl
  · simp at h

/-- A keyword that does not stand ahead, or runs on, is refused with a word about what stands there. -/
theorem readKeyword_of_no_front {c : Cursor} {keyword : String}
    (h : c.settings.keywordAtFront keyword.toList c.ahead = none) :
    c.readKeyword keyword
      = (.error (.wrongKeyword keyword (c.context keyword.toList.length) c.offset), c) := by
  by_cases hprefix : keyword.toList.isPrefixOf c.ahead = true
  · obtain ⟨rest, hrest⟩ := List.isPrefixOf_iff_prefix.1 hprefix
    obtain ⟨stop, hadvance, hpass⟩ := advance_of_append hrest.symm
    have hbehind : stop.ahead = c.ahead.drop keyword.toList.length := by
      rw [hpass.ahead_eq, List.drop_left]
    -- The keyword stands there, so it is refused because it runs on.
    have hruns : c.settings.runsOn keyword.toList (c.ahead.drop keyword.toList.length) = true := by
      simpa [Settings.keywordAtFront, hprefix] using h
    simp only [readKeyword, startsWith, hprefix, hadvance, hbehind, hruns, if_true]
  · simp only [readKeyword, startsWith, hprefix]
    rfl

end Cursor

namespace Terminal

/-- A terminal whose lexeme stands at its place reads it. -/
theorem read_of_lexeme {terminal : Terminal} {c : Cursor} {text : Text}
    (h : terminal.lexeme? c.settings (terminal.entry c).ahead = some text) :
    ∃ stop, terminal.read c = (.ok text, stop) ∧ (terminal.entry c).Passes text stop := by
  cases terminal with
  | digit => exact Cursor.readChar_of_front _ h
  | letter => exact Cursor.readChar_of_front _ h
  | blank => exact Cursor.readChar_of_front _ h
  | char ch => exact Cursor.readChar_of_front _ h
  | keyword keyword =>
      apply Cursor.readKeyword_of_front
      rw [(Cursor.sameFrame_skipBlanks c).settings_eq]
      exact h

/-- A terminal whose lexeme does not stand at its place fails there. -/
theorem read_of_no_lexeme {terminal : Terminal} {c : Cursor}
    (h : terminal.lexeme? c.settings (terminal.entry c).ahead = none) :
    ∃ failure, terminal.read c = (.error failure, terminal.entry c) := by
  cases terminal with
  | digit => exact Cursor.readChar_of_no_front _ h
  | letter => exact Cursor.readChar_of_no_front _ h
  | blank => exact Cursor.readChar_of_no_front _ h
  | char ch => exact Cursor.readChar_of_no_front _ h
  | keyword keyword =>
      refine ⟨_, Cursor.readKeyword_of_no_front ?_⟩
      rw [(Cursor.sameFrame_skipBlanks c).settings_eq]
      exact h

/-- Whether it succeeds or not, reading a terminal goes on and not back. -/
theorem passes_read (terminal : Terminal) (c : Cursor) : ∃ run, c.Passes run (terminal.read c).2 := by
  have hentry := terminal.passes_entry c
  cases hlexeme : terminal.lexeme? c.settings (terminal.entry c).ahead with
  | some text =>
      obtain ⟨stop, hread, hpass⟩ := read_of_lexeme hlexeme
      rw [hread]
      exact ⟨_, hentry.trans hpass⟩
  | none =>
      obtain ⟨failure, hread⟩ := read_of_no_lexeme hlexeme
      rw [hread]
      exact ⟨_, hentry⟩

end Terminal

end RuleMatch
