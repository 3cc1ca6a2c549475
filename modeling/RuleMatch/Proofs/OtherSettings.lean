import RuleMatch.Proofs.Correspondence
import RuleMatch.Proofs.Faults
import RuleMatch.Proofs.WordLists

/-!
# Other settings

The settings tell keywords from longer words, and nothing else in a match asks for them.  They are asked for the
characters at the end of a keyword and behind it, and only once the keyword was found in the text.  So two
settings that check words, or both do not, are told apart by a character ahead of the cursor or by nothing: if
they take the characters there alike, then a match and a look ahead come to the same under both, with the same
failure and the same log.  From a rule that reaches no keyword not even that is asked
(`settings_show_in_keywords_alone`).

The law is one of two runs side by side that stand at the same cursor but for its settings.  While keywords may
be read, the settings have to agree on what is still ahead (`CursorPairing.otherSettings`).
-/

namespace RuleMatch

/-! ## Settings -/

namespace Settings

variable {settings settings' : Settings}

/-- Two settings that tell keywords apart in the same way wherever they stand in a text. -/
def AgreeOn (settings settings' : Settings) (text : Text) : Prop :=
  settings'.wordBoundary = settings.wordBoundary ∧
    (settings.wordBoundary = false ∨ ∀ ch ∈ text, settings'.continuesWord ch = settings.continuesWord ch)

theorem AgreeOn.of_append {before text : Text} (h : settings.AgreeOn settings' (before ++ text)) :
    settings.AgreeOn settings' text := by
  obtain ⟨hboundary, hoff | hsame⟩ := h
  · exact ⟨hboundary, .inl hoff⟩
  · exact ⟨hboundary, .inr (List.forall_mem_append.1 hsame).2⟩

theorem any_continuesWord_eq {ch? : Option Char}
    (h : ∀ ch, ch? = some ch → settings'.continuesWord ch = settings.continuesWord ch) :
    ch?.any settings'.continuesWord = ch?.any settings.continuesWord := by
  cases ch? with
  | none => rfl
  | some ch => exact h ch rfl

theorem wordRun_eq {text : Text}
    (h : ∀ ch ∈ text, settings'.continuesWord ch = settings.continuesWord ch) :
    settings'.wordRun text = settings.wordRun text := by
  induction text with
  | nil => rfl
  | cons ch text ih =>
      obtain ⟨hch, htext⟩ := List.forall_mem_cons.1 h
      have hrest : text.takeWhile settings'.continuesWord = text.takeWhile settings.continuesWord := ih htext
      rw [wordRun, wordRun, List.takeWhile_cons, List.takeWhile_cons, hch, hrest]

/-- The last character of a keyword is asked about as well, and it belongs to the text like those behind. -/
theorem AgreeOn.runsOn_eq {keyword ahead : Text} (h : settings.AgreeOn settings' (keyword ++ ahead)) :
    settings'.runsOn keyword ahead = settings.runsOn keyword ahead := by
  obtain ⟨hboundary, hoff | hsame⟩ := h
  · simp [runsOn, hboundary, hoff]
  · obtain ⟨hkeyword, hahead⟩ := List.forall_mem_append.1 hsame
    have hlast : keyword.getLast?.any settings'.continuesWord = keyword.getLast?.any settings.continuesWord :=
      any_continuesWord_eq fun ch hch => hkeyword ch (List.mem_of_getLast? hch)
    have hnext : ahead.head?.any settings'.continuesWord = ahead.head?.any settings.continuesWord :=
      any_continuesWord_eq fun ch hch => hahead ch (List.mem_of_head? hch)
    rw [runsOn, runsOn, hboundary, hlast, hnext, wordRun_eq hahead]

end Settings

/-! ## Cursors -/

namespace Cursor

/-- The cursor with other settings. -/
def withSettings (c : Cursor) (settings : Settings) : Cursor :=
  { c with settings }

/-- Settings that agree on what lies ahead still do so further on. -/
theorem Passes.agreeOn {c d : Cursor} {run : Text} {settings : Settings} (hpass : c.Passes run d)
    (h : c.settings.AgreeOn settings c.ahead) : d.settings.AgreeOn settings d.ahead := by
  rw [hpass.ahead_eq, ← hpass.frame.settings_eq] at h
  exact h.of_append

theorem advance_withSettings (c : Cursor) (settings : Settings) (count : Nat) :
    (c.withSettings settings).advance count
      = (c.advance count).map fun stop => stop.withSettings settings := by
  induction count generalizing c with
  | zero => rfl
  | succ count ih =>
      have hahead : (c.withSettings settings).ahead = c.ahead := rfl
      rw [advance, advance, hahead]
      cases c.ahead with
      | nil => rfl
      | cons ch ahead => exact ih (c.pass ch ahead)

theorem passBlanks_withSettings (c : Cursor) (settings : Settings) (ahead : Text) :
    ((c.withSettings settings).passBlanks ahead).2 = (c.passBlanks ahead).2.withSettings settings := by
  induction ahead generalizing c with
  | nil => rfl
  | cons ch ahead ih =>
      simp only [passBlanks]
      split
      · exact ih (c.pass ch ahead)
      · rfl

theorem skipBlanks_withSettings (c : Cursor) (settings : Settings) :
    (c.withSettings settings).skipBlanks.2 = c.skipBlanks.2.withSettings settings := by
  have hskip : (c.withSettings settings).maySkip = c.maySkip := rfl
  unfold skipBlanks
  rw [hskip]
  split
  · exact c.passBlanks_withSettings settings c.ahead
  · rfl

theorem readChar_withSettings (c : Cursor) (settings : Settings) (expected : String)
    (accepts : Char → Bool) :
    (c.withSettings settings).readChar expected accepts
      = ((c.readChar expected accepts).1, (c.readChar expected accepts).2.withSettings settings) := by
  have hahead : (c.withSettings settings).ahead = c.ahead := rfl
  unfold readChar readIf
  rw [hahead]
  cases c.ahead with
  | nil => rfl
  | cons ch ahead =>
      by_cases haccepts : accepts ch = true
      · simp only [if_pos haccepts]
        rfl
      · simp only [if_neg haccepts]
        rfl

theorem readKeyword_withSettings {c : Cursor} {settings : Settings}
    (h : c.settings.AgreeOn settings c.ahead) (keyword : String) :
    (c.withSettings settings).readKeyword keyword
      = ((c.readKeyword keyword).1, (c.readKeyword keyword).2.withSettings settings) := by
  have hstarts : (c.withSettings settings).startsWith keyword.toList = c.startsWith keyword.toList := rfl
  unfold readKeyword
  dsimp only
  rw [hstarts, advance_withSettings]
  split
  · next hprefix =>
      -- The keyword stands ahead, and so do the characters that the settings are asked about.
      obtain ⟨rest, hrest⟩ := List.isPrefixOf_iff_prefix.1 hprefix
      obtain ⟨stop, hadvance, hpass⟩ := advance_of_append hrest.symm
      have hruns : settings.runsOn keyword.toList stop.ahead = c.settings.runsOn keyword.toList stop.ahead := by
        apply Settings.AgreeOn.runsOn_eq
        rw [← hpass.ahead_eq]
        exact h
      rw [hadvance]
      show (if settings.runsOn keyword.toList stop.ahead = true then _ else _) = _
      rw [hruns]
      dsimp only
      split <;> rfl
  · rfl

end Cursor

/-- A terminal reads the same under other settings, if it is no keyword or the settings agree on what lies
ahead. -/
theorem Terminal.read_withSettings (terminal : Terminal) {c : Cursor} {settings : Settings}
    (h : ∀ text, terminal = .keyword text → c.settings.AgreeOn settings c.ahead) :
    terminal.read (c.withSettings settings)
      = ((terminal.read c).1, (terminal.read c).2.withSettings settings) := by
  cases terminal with
  | digit => exact c.readChar_withSettings settings _ _
  | letter => exact c.readChar_withSettings settings _ _
  | blank => exact c.readChar_withSettings settings _ _
  | char ch =>
      rw [read, read, Cursor.skipBlanks_withSettings]
      exact c.skipBlanks.2.readChar_withSettings settings _ _
  | keyword keyword =>
      have hagree : c.skipBlanks.2.settings.AgreeOn settings c.skipBlanks.2.ahead :=
        (Cursor.passes_skipBlanks c).agreeOn (h keyword rfl)
      rw [read, read, Cursor.skipBlanks_withSettings]
      exact Cursor.readKeyword_withSettings hagree keyword

/-! ## Runs -/

/-- Two cursors that are the same but for their settings.  These agree on what lies ahead as long as keywords
may be read. -/
def CursorPairing.otherSettings (settings : Settings) (keywords : Prop) : CursorPairing where
  cursors c c' := c' = c.withSettings settings ∧ (keywords → c.settings.AgreeOn settings c.ahead)
  ahead_eq := by
    rintro c _ ⟨rfl, -⟩
    rfl
  pin := by
    rintro c _ ⟨rfl, hagree⟩
    exact ⟨rfl, hagree⟩
  repin := by
    rintro c _ d _ ⟨rfl, -⟩ ⟨rfl, hagree⟩
    exact ⟨rfl, hagree⟩
  skipBlanks := by
    rintro c _ ⟨rfl, hagree⟩
    exact ⟨c.skipBlanks_withSettings settings, fun hkeywords =>
      (Cursor.passes_skipBlanks c).agreeOn (hagree hkeywords)⟩

theorem CursorPairing.otherSettings_offset {settings : Settings} {keywords : Prop} {c c' : Cursor}
    (h : (otherSettings settings keywords).cursors c c') : c'.offset = c.offset := by
  rw [h.1]
  rfl

/-- Two runs from the same cursor under different settings, which say the same in every step. -/
def otherSettings (settings : Settings) (keywords : Prop) : RunPairing :=
  (CursorPairing.otherSettings settings keywords).saysSame (fun _ => False) CursorPairing.otherSettings_offset

theorem otherSettings_reads {settings : Settings} {keywords : Prop} {terminal : Terminal}
    (h : ∀ text, terminal = .keyword text → keywords) : (otherSettings settings keywords).Reads terminal := by
  rintro c _ ⟨rfl, hagree⟩
  obtain ⟨run, hrun⟩ := terminal.passes_read c
  rw [terminal.read_withSettings fun text hkeyword => hagree (h text hkeyword)]
  exact ⟨.of_refl (fun _ => rfl) _, rfl, fun hkeywords => hrun.agreeOn (hagree hkeywords)⟩

namespace Outcome

variable {α : Type}

/-- The outcome with other settings at its end. -/
def withSettings (settings : Settings) (outcome : Outcome α) : Outcome α :=
  outcome.andThen fun value stop => .finished value (stop.withSettings settings) []

end Outcome

namespace Grammar

/-- Put other settings into a cursor.  If both settings check words or both do not, and if, where they do, they
take the same characters ahead for word characters, then a match and a look ahead come to the same under both:
the text or the failure, the place, the log, or the fault.  From a rule that reaches no keyword they do so under
any other settings. -/
theorem settings_show_in_keywords_alone (g : Grammar) (rule : Rule) (c : Cursor) (settings : Settings)
    (h : c.settings.AgreeOn settings c.ahead ∨ ∀ text, ¬ g.Reaches rule (.keyword text)) :
    g.matchAt rule (c.withSettings settings) = (g.matchAt rule c).withSettings settings ∧
      g.mayMatch rule (c.withSettings settings) = (g.mayMatch rule c).withSettings settings := by
  let k := otherSettings settings (∃ text, g.Reaches rule (.keyword text))
  have hc : k.cursors c (c.withSettings settings) := by
    refine ⟨rfl, ?_⟩
    rintro ⟨text, hreached⟩
    exact h.resolve_right fun hnone => hnone text hreached
  have hreads : ∀ terminal, g.Reaches rule (.terminal terminal) → k.Reads terminal := by
    intro terminal hreached
    apply otherSettings_reads
    rintro text rfl
    exact ⟨text, hreached⟩
  have hcallees : ∀ caller, g.Reaches rule caller → ∀ callee ∈ g.callees caller, g.Reaches rule callee :=
    fun _ hreached _ hcallee => hreached.callee hcallee
  constructor
  · have hmatch := matchAt_corresponds_of_closed _ hcallees hreads (fun _ => rfl) (Reaches.self g rule) hc
    apply hmatch.eq_moved CursorPairing.otherSettings_offset
    intro verdict stop verdict' stop' hanswer
    exact ⟨hanswer.verdicts.eq, hanswer.cursors.1⟩
  · have hlook := mayMatch_corresponds_of_closed _ hcallees hreads (Reaches.self g rule) hc
    apply hlook.eq_moved CursorPairing.otherSettings_offset
    rintro can _ _ _ ⟨rfl, rfl, rfl⟩
    exact ⟨rfl, rfl⟩

/-- A hyphen may be a word character or not where none lies ahead: a keyword runs on in the same way.  Where words
are not checked it does not matter which characters they have, and for a list nothing does. -/
theorem settings_of_keywords_and_lists :
    (matchAt {} (.keyword "end")
        ((Cursor.start ['e', 'n', 'd', '_', ' ', 'é'] {}).withSettings { extraWordChars := "_-" })).value?
      = some (.error (.wrongKeyword "end" "end_" 0)) ∧
    (matchAt {} (.keyword "end")
        ((Cursor.start ['e', 'n', 'd', '_'] { wordBoundary := false }).withSettings
          { wordBoundary := false, extraWordChars := "" })).value? = some (.ok ['e', 'n', 'd']) ∧
    (WordLists.grammar.matchAt WordLists.bracketed
        ((Cursor.start ['(', 'a', ',', 'b'] {}).withSettings { wordBoundary := false })).value?
      = some (.error (.partFailed 2 (.endOfInput "')'" 4))) := by
  have hsame : ∀ ch ∈ ['e', 'n', 'd', '_', ' ', 'é'],
      ({ extraWordChars := "_-" } : Settings).continuesWord ch = ({} : Settings).continuesWord ch := by
    intro ch hch
    simp only [List.mem_cons, List.not_mem_nil, or_false] at hch
    rcases hch with rfl | rfl | rfl | rfl | rfl | rfl <;> decide +kernel
  have hhyphen := settings_show_in_keywords_alone {} (.keyword "end")
    (Cursor.start ['e', 'n', 'd', '_', ' ', 'é'] {}) { extraWordChars := "_-" } (.inl ⟨rfl, .inr hsame⟩)
  have hunchecked := settings_show_in_keywords_alone {} (.keyword "end")
    (Cursor.start ['e', 'n', 'd', '_'] { wordBoundary := false })
    { wordBoundary := false, extraWordChars := "" } (.inl ⟨rfl, .inl rfl⟩)
  have hnone : ∀ text, ¬ WordLists.grammar.Reaches WordLists.bracketed (.keyword text) := by
    intro text hreached
    simpa [reachable, Rule.nodes, Rule.nodesAll, WordLists.grammar, WordLists.definition_eq,
      WordLists.bracketed_eq] using hreached.mem_reachable
  have hlists := settings_show_in_keywords_alone WordLists.grammar WordLists.bracketed
    (Cursor.start ['(', 'a', ',', 'b'] {}) { wordBoundary := false } (.inr hnone)
  rw [hhyphen.1, hunchecked.1, hlists.1]
  decide +kernel

end Grammar

end RuleMatch
