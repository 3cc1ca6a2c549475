import RuleMatch.Grammar.Building
import RuleMatch.Proofs.Faults
import RuleMatch.Proofs.Repetition
import RuleMatch.Proofs.SeriesText
import RuleMatch.Proofs.Termination

/-!
# The language of bracketed lists

`WordLists.bracketed` matches exactly the texts that are a list of words between parentheses, with a comma
between each two words and blanks around words and commas (`bracketed_lists_matched`).

A list that is matched takes the blanks behind it along: the repetition at its end is tried behind the gap,
and matches there even if it matches nothing.  So what a list matches is a list and blanks.  That nothing else
is matched is shown by induction on the text ahead.  That nothing is missed is shown by induction on the list:
where the parenthesis is closed behind it, the inner list takes all that is left, and each repetition ends
at the parenthesis.  Which list takes which words does not matter for either.
-/

namespace RuleMatch

namespace WordLists

/-! ## The language -/

/-- Blanks and nothing else. -/
def Blanks (text : Text) : Prop :=
  ∀ ch ∈ text, isBlank ch = true

/-- A run of letters. -/
structure IsWord (text : Text) : Prop where
  ne_nil : text ≠ []
  letters : ∀ ch ∈ text, ch.isAlpha = true

/-- A word, or a word, a comma and a list, with blanks around the comma. -/
inductive IsList : Text → Prop
  | word {word : Text} (hword : IsWord word) : IsList word
  | more {word before after rest : Text} (hword : IsWord word) (hbefore : Blanks before)
      (hafter : Blanks after) (hrest : IsList rest) :
      IsList (word ++ before ++ [','] ++ after ++ rest)

/-- A list between parentheses, with blanks around it. -/
def IsBracketed (text : Text) : Prop :=
  ∃ before items after, Blanks before ∧ IsList items ∧ Blanks after ∧
    text = ['('] ++ before ++ items ++ after ++ [')']

/-- A list and perhaps blanks behind it. -/
def IsPadded (text : Text) : Prop :=
  ∃ items after, IsList items ∧ Blanks after ∧ text = items ++ after

theorem Blanks.nil : Blanks [] := List.forall_mem_nil _

theorem Blanks.append {first second : Text} (h : Blanks first) (h' : Blanks second) :
    Blanks (first ++ second) :=
  List.forall_mem_append.2 ⟨h, h'⟩

theorem blanks_gap (c : Cursor) : Blanks c.gap :=
  fun _ hch => Cursor.isBlank_of_mem_gap hch

/-- Lists with a comma in between are a list. -/
theorem IsList.append {items before after more : Text} (h : IsList items) (hbefore : Blanks before)
    (hafter : Blanks after) (hmore : IsList more) : IsList (items ++ before ++ [','] ++ after ++ more) := by
  induction h with
  | word hword => exact .more hword hbefore hafter hmore
  | more hword hbefore' hafter' _ ih =>
      have hlist := IsList.more hword hbefore' hafter' ih
      simpa only [List.append_assoc] using hlist

theorem IsPadded.of_word {word blanks : Text} (hword : IsWord word) (hblanks : Blanks blanks) :
    IsPadded (word ++ blanks) :=
  ⟨word, blanks, .word hword, hblanks, rfl⟩

theorem IsPadded.append {text before after more : Text} (h : IsPadded text) (hbefore : Blanks before)
    (hafter : Blanks after) (hmore : IsPadded more) : IsPadded (text ++ (before ++ [','] ++ after ++ more)) := by
  obtain ⟨items, behind, hitems, hbehind, rfl⟩ := h
  obtain ⟨items', behind', hitems', hbehind', rfl⟩ := hmore
  refine ⟨_, behind', hitems.append (hbehind.append hbefore) hafter hitems', hbehind', ?_⟩
  simp only [List.append_assoc]

/-! ## Characters and words -/

/-- A comma and a list behind it. -/
def item : Rule :=
  .series .spaced [.char ',', .ref list]

variable {c stop : Cursor} {text : Text} {log : List Event}

theorem matchAt_list (c : Cursor) :
    grammar.matchAt (.ref list) c = grammar.matchAt (.series .spaced [.oneOrMore .letter, .zeroOrMore item]) c :=
  Grammar.matchAt_ref rfl c

/-- Rounds of letters pass letters. -/
theorem letters_of_rounds {g : Grammar} (h : g.Rounds .letter c stop) :
    ∃ run, c.Passes run stop ∧ ∀ ch ∈ run, ch.isAlpha = true := by
  induction h with
  | stay c => exact ⟨[], Cursor.Passes.refl c, by simp⟩
  | round hmatch _ _ ih =>
      obtain ⟨ch, hletter, -, hpass⟩ := Grammar.letter_of_matchAt_ok hmatch
      obtain ⟨run, hrun, hletters⟩ := ih
      exact ⟨[ch] ++ run, hpass.trans hrun, List.forall_mem_cons.2 ⟨hletter, hletters⟩⟩

theorem not_nullable_letter {g : Grammar} : ¬ g.Nullable .letter := by
  rintro ⟨⟩

theorem not_nullable_letters {g : Grammar} : ¬ g.Nullable (.oneOrMore .letter) := by
  rintro (_ | _ | hletter)
  exact not_nullable_letter hletter

/-- A repetition of letters that was matched is a word. -/
theorem isWord_of_matchAt_ok {g : Grammar}
    (h : g.matchAt (.oneOrMore .letter) c = .finished (.ok text) stop log) :
    IsWord text ∧ c.Passes text stop := by
  have hrounds := g.matchAt_oneOrMore_ensures_rounds .letter c
  rw [h] at hrounds
  obtain ⟨-, hpass, hrounds, -⟩ := hrounds
  obtain ⟨run, hrun, hletters⟩ := letters_of_rounds hrounds
  obtain rfl := hpass.unique hrun
  refine ⟨⟨?_, hletters⟩, hpass⟩
  rintro rfl
  obtain rfl := hpass.eq_of_nil
  exact Nat.lt_irrefl _ (Grammar.offset_lt_of_matchAt not_nullable_letters h)

/-! ## Nothing else is matched -/

/-- Where fewer than `bound` characters are ahead, a list matches lists and blanks behind them. -/
def ListsBelow (bound : Nat) : Prop :=
  ∀ c text stop log, c.ahead.length < bound →
    grammar.matchAt (.ref list) c = .finished (.ok text) stop log → IsPadded text

/-- What an item passes is a comma and a list, with blanks in front of each. -/
theorem item_of_matchAt_ok {bound : Nat} (hlists : ListsBelow bound) (hc : c.ahead.length ≤ bound)
    (h : grammar.matchAt item c = .finished (.ok text) stop log) :
    ∃ before after items, Blanks before ∧ Blanks after ∧ IsPadded items ∧
      c.Passes (before ++ [','] ++ after ++ items) stop := by
  have hseries := grammar.matchAt_series_runThrough .spaced (.char ',') [.ref list] c
  rw [← item, h] at hseries
  obtain ⟨head, behind, headLog, runs, hcomma, hruns, -⟩ := hseries text rfl
  obtain ⟨items, next, listLog, others, hlist, ⟨⟩, -⟩ := hruns.of_cons_spaced
  obtain ⟨-, hpass⟩ := Grammar.char_of_matchAt_ok hcomma
  have hgap := Cursor.passes_skipBlanks behind
  have hstart := hpass.trans hgap
  have hshorter : behind.skipBlanks.2.ahead.length < bound := by
    have hlength := hstart.length_ahead
    simp only [List.length_append, List.length_singleton] at hlength
    omega
  exact ⟨c.gap, behind.gap, items, blanks_gap c, blanks_gap behind, hlists _ _ _ _ hshorter hlist,
    hstart.trans (Grammar.passes_of_matchAt hlist hgap.gap_eq_nil)⟩

/-- Commas and lists that are matched behind a list make it longer. -/
theorem isPadded_of_rounds {bound : Nat} (hlists : ListsBelow bound) (h : grammar.Rounds item c stop)
    (hc : c.ahead.length ≤ bound) {before : Text} (hbefore : IsPadded before) :
    ∃ run, c.Passes run stop ∧ IsPadded (before ++ run) := by
  induction h generalizing before with
  | stay c => exact ⟨[], Cursor.Passes.refl c, by simpa using hbefore⟩
  | round hmatch _ _ ih =>
      obtain ⟨blanks, after, items, hblanks, hafter, hitems, hpass⟩ := item_of_matchAt_ok hlists hc hmatch
      have hlength := hpass.length_ahead
      obtain ⟨run, hrun, hpadded⟩ := ih (by omega) (hbefore.append hblanks hafter hitems)
      rw [List.append_assoc] at hpadded
      exact ⟨_, hpass.trans hrun, hpadded⟩

/-- By induction on the bound: the lists in the items of a list start further on. -/
theorem listsBelow (bound : Nat) : ListsBelow bound := by
  induction bound with
  | zero =>
      intro c text stop log hc
      exact absurd hc (Nat.not_lt_zero _)
  | succ bound ih =>
      intro c text stop log hc h
      have hseries := grammar.matchAt_series_runThrough .spaced (.oneOrMore .letter) [.zeroOrMore item] c
      rw [← matchAt_list, h] at hseries
      obtain ⟨word, behind, wordLog, runs, hmatch, hruns, rfl⟩ := hseries text rfl
      obtain ⟨rest, next, restLog, others, hrest, ⟨⟩, rfl⟩ := hruns.of_cons_spaced
      obtain ⟨hword, hpass⟩ := isWord_of_matchAt_ok hmatch
      have hrounds := grammar.matchAt_zeroOrMore_ensures_rounds item behind.skipBlanks.2
      rw [hrest] at hrounds
      obtain ⟨_, ⟨⟩, hpassRest, hrounds, -⟩ := hrounds
      have hlength := (hpass.trans (Cursor.passes_skipBlanks behind)).length_ahead
      -- The word is a list by itself, and each round of the repetition makes it longer.
      obtain ⟨run, hrun, hpadded⟩ :=
        isPadded_of_rounds ih hrounds (by omega) (.of_word hword (blanks_gap behind))
      obtain rfl := hrun.unique hpassRest
      simpa [PartRun.added] using hpadded

/-- What a list matches is a list, perhaps with blanks behind it. -/
theorem isPadded_of_matchAt_ok (h : grammar.matchAt (.ref list) c = .finished (.ok text) stop log) :
    IsPadded text :=
  listsBelow (c.ahead.length + 1) c text stop log (Nat.lt_succ_self _) h

theorem isBracketed_of_matchAt_ok (h : grammar.matchAt bracketed c = .finished (.ok text) stop log) :
    IsBracketed text ∧ c.Passes (c.gap ++ text) stop := by
  have hseries := grammar.matchAt_series_runThrough .spaced (.char '(') [.ref list, .char ')'] c
  rw [← bracketed_eq, h] at hseries
  obtain ⟨opening, behind, headLog, runs, hopening, hruns, rfl⟩ := hseries text rfl
  have hbehind := hruns.passes
  obtain ⟨padded, next, listLog, others, hlist, hothers, rfl⟩ := hruns.of_cons_spaced
  obtain ⟨closing, last, lastLog, others, hclosing, ⟨⟩, rfl⟩ := hothers.of_cons_spaced
  obtain ⟨rfl, hpass⟩ := Grammar.char_of_matchAt_ok hopening
  obtain ⟨rfl, -⟩ := Grammar.char_of_matchAt_ok hclosing
  obtain ⟨items, after, hitems, hafter, rfl⟩ := isPadded_of_matchAt_ok hlist
  constructor
  · have hblanks : Blanks (after ++ next.gap) := hafter.append (blanks_gap next)
    refine ⟨behind.gap, items, _, blanks_gap behind, hitems, hblanks, ?_⟩
    simp [PartRun.added]
  · rw [← List.append_assoc]
    exact hpass.trans hbehind

/-! ## Nothing is missed -/

theorem not_isAlpha_of_isBlank {ch : Char} (h : isBlank ch = true) : ch.isAlpha = false := by
  simp only [isBlank, Bool.or_eq_true, beq_iff_eq] at h
  rcases h with ((rfl | rfl) | rfl) | rfl <;> rfl

theorem not_isBlank_of_isAlpha {ch : Char} (h : ch.isAlpha = true) : isBlank ch = false := by
  by_contra hblank
  rw [not_isAlpha_of_isBlank (by simpa using hblank)] at h
  exact absurd h (by simp)

/-- A list starts with a letter. -/
theorem IsList.exists_letter {items : Text} (h : IsList items) :
    ∃ ch more, items = ch :: more ∧ ch.isAlpha = true := by
  have hword : ∀ {word : Text}, IsWord word → ∃ ch more, word = ch :: more ∧ ch.isAlpha = true := by
    rintro (_ | ⟨ch, word⟩) ⟨hne, hletters⟩
    · exact absurd rfl hne
    · exact ⟨ch, word, rfl, hletters ch List.mem_cons_self⟩
  cases h with
  | word h => exact hword h
  | more h =>
      obtain ⟨ch, more, rfl, hletter⟩ := hword h
      exact ⟨ch, _, rfl, hletter⟩

/-- Skipping blanks behind a text ends in front of the first character that is none. -/
theorem skipBlanks_behind {run blanks rest : Text} {ch : Char} (hpinned : c.pinned = none)
    (hahead : c.ahead = run ++ (blanks ++ ch :: rest)) (hblanks : Blanks blanks) (hch : isBlank ch = false)
    (hpass : c.Passes run stop) :
    stop.gap = blanks ∧ stop.skipBlanks.2.pinned = none ∧ stop.skipBlanks.2.ahead = ch :: rest ∧
      c.Passes (run ++ blanks) stop.skipBlanks.2 := by
  have hstop : stop.ahead = blanks ++ ch :: rest := hpass.ahead_of_append hahead
  obtain rfl : stop.gap = blanks :=
    Cursor.gap_of_unpinned (hpass.frame.pinned_eq.trans hpinned) hstop hblanks (by simpa using hch)
  have hskip := Cursor.passes_skipBlanks stop
  have hentry := hpass.trans hskip
  exact ⟨rfl, hentry.frame.pinned_eq.trans hpinned, hskip.ahead_of_append hstop, hentry⟩

/-- A character that stands behind blanks is matched. -/
theorem matchAt_char_of_ahead {g : Grammar} {blanks rest : Text} {ch : Char} (hpinned : c.pinned = none)
    (hahead : c.ahead = blanks ++ ch :: rest) (hblanks : Blanks blanks) (hch : isBlank ch = false) :
    ∃ stop, g.matchAt (.char ch) c = .finished (.ok [ch]) stop [] ∧ c.Passes (blanks ++ [ch]) stop := by
  obtain ⟨-, -, hentry, hskip⟩ := skipBlanks_behind hpinned hahead hblanks hch (Cursor.Passes.refl c)
  have hlexeme : (Terminal.char ch).lexeme? c.settings c.skipBlanks.2.ahead = some [ch] :=
    Text.charAtFront_eq_some_iff.2 ⟨ch, rest, hentry, beq_self_eq_true ch, rfl⟩
  obtain ⟨stop, hmatch, hpass⟩ := Grammar.matchAt_terminal_of_lexeme (g := g) hlexeme
  exact ⟨stop, hmatch, hskip.trans hpass⟩

/-- Letters are matched one by one. -/
theorem rounds_of_letters {g : Grammar} {word rest : Text} (hahead : c.ahead = word ++ rest)
    (hletters : ∀ ch ∈ word, ch.isAlpha = true) : ∃ stop, g.Rounds .letter c stop ∧ c.Passes word stop := by
  induction word generalizing c with
  | nil => exact ⟨c, .stay c, Cursor.Passes.refl c⟩
  | cons ch word ih =>
      obtain ⟨hletter, hletters⟩ := List.forall_mem_cons.1 hletters
      have hlexeme : Terminal.letter.lexeme? c.settings c.ahead = some [ch] :=
        Text.charAtFront_eq_some_iff.2 ⟨ch, word ++ rest, hahead, hletter, rfl⟩
      obtain ⟨next, hmatch, hpass⟩ := Grammar.matchAt_terminal_of_lexeme (g := g) hlexeme
      have hpass : c.Passes [ch] next := hpass
      obtain ⟨stop, hrounds, hword⟩ := ih (hpass.ahead_of_append hahead) hletters
      have hmoves : c.offset < next.offset := Grammar.offset_lt_of_matchAt not_nullable_letter hmatch
      exact ⟨stop, .round hmatch hmoves hrounds, hpass.trans hword⟩

/-- A word is matched up to the first character that is no letter. -/
theorem matchAt_word_of_ahead {g : Grammar} {word rest : Text} (hahead : c.ahead = word ++ rest)
    (hword : IsWord word) (hrest : ∀ ch, rest.head? = some ch → ch.isAlpha = false) :
    ∃ stop log, g.matchAt (.oneOrMore .letter) c = .finished (.ok word) stop log ∧ c.Passes word stop := by
  obtain ⟨stop, hrounds, hpass⟩ := rounds_of_letters (g := g) hahead hword.letters
  have hstop : Terminal.letter.lexeme? stop.settings stop.ahead = none := by
    rw [hpass.ahead_of_append hahead]
    exact Text.charAtFront_eq_none_iff.2 hrest
  obtain ⟨failure, hfails⟩ := Grammar.matchAt_terminal_of_no_lexeme (g := g) hstop
  have hfirst : ¬ g.FailsAt .letter c := by
    cases hrounds with
    | stay => exact absurd (hpass.unique (Cursor.Passes.refl c)) hword.ne_nil
    | round hmatch => exact Grammar.not_failsAt_of_ok hmatch
  obtain ⟨log, hmatch⟩ :=
    Grammar.matchAt_oneOrMore_of_rounds hfirst hrounds (.inl ⟨failure, [], hfails⟩) hpass
  exact ⟨stop, log, hmatch, hpass⟩

/-- No item stands in front of the closing parenthesis. -/
theorem failsAt_item {rest : Text} (hahead : c.ahead = ')' :: rest) : grammar.FailsAt item c := by
  have hgap : c.gap = [] := Cursor.gap_of_no_blank (by simp [hahead, isBlank])
  have hskip : c.Passes [] c.skipBlanks.2 := hgap ▸ Cursor.passes_skipBlanks c
  have hcomma : (Terminal.char ',').lexeme? c.settings c.skipBlanks.2.ahead = none := by
    rw [hskip.ahead_of_append hahead]
    rfl
  obtain ⟨failure, hfails⟩ := Grammar.matchAt_terminal_of_no_lexeme (g := grammar) hcomma
  obtain ⟨log, hseries⟩ := Grammar.matchAt_series_of_first_fails hfails .spaced [.ref list]
  exact ⟨_, log, hseries⟩

/-- A list is its first word and the items behind the gap there. -/
theorem matchAt_list_of_items {word run : Text} {behind : Cursor} {wordLog : List Event}
    (hword : grammar.matchAt (.oneOrMore .letter) c = .finished (.ok word) behind wordLog)
    (hrounds : grammar.Rounds item behind.skipBlanks.2 stop) (hstill : grammar.FailsAt item stop)
    (hpass : behind.skipBlanks.2.Passes run stop) :
    ∃ log, grammar.matchAt (.ref list) c = .finished (.ok (word ++ (behind.gap ++ run))) stop log := by
  obtain ⟨restLog, hrest⟩ := Grammar.matchAt_zeroOrMore_of_rounds hrounds (.inl hstill) hpass
  obtain ⟨log, hlist⟩ := Grammar.matchAt_series_of_runThrough hword
    (.cons (.spaced (Cursor.passes_skipBlanks behind) hrest) (.nil stop))
  rw [← matchAt_list] at hlist
  exact ⟨log, by simpa [PartRun.added] using hlist⟩

theorem not_nullable_item : ¬ grammar.Nullable item := by
  intro h
  cases h with
  | series hparts => nomatch hparts (.char ',') List.mem_cons_self

/-- An item is matched if its list is, behind the comma and the blanks there. -/
theorem matchAt_item_of_ahead {blanks items rest : Text} {ch : Char} (hpinned : c.pinned = none)
    (hahead : c.ahead = ',' :: (blanks ++ ch :: rest)) (hblanks : Blanks blanks) (hch : isBlank ch = false)
    (hlist : ∀ d : Cursor, d.pinned = none → d.ahead = ch :: rest → ∃ stop log,
      grammar.matchAt (.ref list) d = .finished (.ok items) stop log ∧ d.Passes items stop) :
    ∃ stop text log, grammar.matchAt item c = .finished (.ok text) stop log ∧
      c.Passes ([','] ++ blanks ++ items) stop := by
  obtain ⟨behind, hcomma, hpass⟩ := matchAt_char_of_ahead (g := grammar) hpinned hahead Blanks.nil rfl
  obtain ⟨rfl, hunpinned, hentry, hskip⟩ := skipBlanks_behind hpinned hahead hblanks hch hpass
  obtain ⟨stop, listLog, hitems, hrun⟩ := hlist behind.skipBlanks.2 hunpinned hentry
  obtain ⟨log, hmatch⟩ := Grammar.matchAt_series_of_runThrough hcomma
    (.cons (.spaced (Cursor.passes_skipBlanks behind) hitems) (.nil stop))
  exact ⟨stop, _, log, hmatch, hskip.trans hrun⟩

/-- No letter stands where blanks may stand and a character that is no letter. -/
theorem no_letter_ahead {blanks rest : Text} {ch : Char} (hblanks : Blanks blanks) (hch : ch.isAlpha = false) :
    ∀ next, (blanks ++ ch :: rest).head? = some next → next.isAlpha = false := by
  intro next hnext
  cases blanks with
  | nil =>
      obtain rfl : ch = next := by simpa using hnext
      exact hch
  | cons blank blanks =>
      obtain rfl : blank = next := by simpa using hnext
      exact not_isAlpha_of_isBlank (hblanks blank List.mem_cons_self)

/-- In front of a closing parenthesis a list is matched as a whole, with the blanks behind it. -/
theorem matchAt_list_of_ahead {items after rest : Text} (hitems : IsList items) (hafter : Blanks after)
    (hpinned : c.pinned = none) (hahead : c.ahead = items ++ (after ++ ')' :: rest)) :
    ∃ stop log, grammar.matchAt (.ref list) c = .finished (.ok (items ++ after)) stop log ∧
      c.Passes (items ++ after) stop := by
  induction hitems generalizing c with
  | @word word hword =>
      obtain ⟨behind, wordLog, hmatch, hpass⟩ :=
        matchAt_word_of_ahead (g := grammar) hahead hword (no_letter_ahead hafter rfl)
      obtain ⟨rfl, -, hclosing, hskip⟩ := skipBlanks_behind hpinned hahead hafter rfl hpass
      obtain ⟨log, hlist⟩ := matchAt_list_of_items hmatch (.stay _) (failsAt_item hclosing)
        (Cursor.Passes.refl _)
      rw [List.append_nil] at hlist
      exact ⟨_, log, hlist, hskip⟩
  | @more word before blanks more hword hbefore hblanks hmore ih =>
      obtain ⟨ch, others, rfl, hletter⟩ := hmore.exists_letter
      have hsplit : c.ahead = word ++ (before ++ ',' :: (blanks ++ ch :: (others ++ (after ++ ')' :: rest)))) := by
        simpa using hahead
      obtain ⟨behind, wordLog, hmatch, hpass⟩ :=
        matchAt_word_of_ahead (g := grammar) hsplit hword (no_letter_ahead hbefore rfl)
      obtain ⟨rfl, hunpinned, hcomma, hskip⟩ := skipBlanks_behind hpinned hsplit hbefore rfl hpass
      -- The inner list takes all the words that are left, so there is one round.
      obtain ⟨stop, text, itemLog, hitem, hrun⟩ := matchAt_item_of_ahead hunpinned hcomma hblanks
        (not_isBlank_of_isAlpha hletter) fun d => ih
      have hclosing : stop.ahead = ')' :: rest := hrun.ahead_of_append (by rw [hcomma]; simp)
      have hrounds : grammar.Rounds item behind.skipBlanks.2 stop :=
        .round hitem (Grammar.offset_lt_of_matchAt not_nullable_item hitem) (.stay stop)
      obtain ⟨log, hlist⟩ := matchAt_list_of_items hmatch hrounds (failsAt_item hclosing) hrun
      refine ⟨stop, log, ?_, ?_⟩
      · simpa using hlist
      · simpa using hskip.trans hrun

theorem matchAt_bracketed_of_ahead {blanks rest : Text} (hpinned : c.pinned = none)
    (hahead : c.ahead = blanks ++ text ++ rest) (hblanks : Blanks blanks) (htext : IsBracketed text) :
    ∃ stop log, grammar.matchAt bracketed c = .finished (.ok text) stop log ∧
      c.Passes (blanks ++ text) stop := by
  obtain ⟨before, items, after, hbefore, hitems, hafter, rfl⟩ := htext
  obtain ⟨ch, others, rfl, hletter⟩ := hitems.exists_letter
  have hsplit : c.ahead = blanks ++ '(' :: (before ++ ch :: (others ++ (after ++ ')' :: rest))) := by
    simpa using hahead
  obtain ⟨behind, hopening, hpass⟩ := matchAt_char_of_ahead (g := grammar) hpinned hsplit hblanks rfl
  obtain ⟨rfl, hunpinned, hentry, hskip⟩ := skipBlanks_behind hpinned (by rw [hsplit, List.append_cons])
    hbefore (not_isBlank_of_isAlpha hletter) hpass
  obtain ⟨last, listLog, hlist, hrun⟩ := matchAt_list_of_ahead hitems hafter hunpinned hentry
  -- The list has taken the blanks in front of the closing parenthesis, so there is no gap.
  have hbehind : behind.skipBlanks.2.ahead = (ch :: others ++ after) ++ ([] ++ ')' :: rest) := by
    rw [hentry]
    simp
  obtain ⟨hgap, hunpinned', hclosing, hskip'⟩ := skipBlanks_behind hunpinned hbehind Blanks.nil rfl hrun
  obtain ⟨stop, hmatch, hlast⟩ :=
    matchAt_char_of_ahead (g := grammar) hunpinned' hclosing Blanks.nil rfl
  obtain ⟨log, hseries⟩ := Grammar.matchAt_series_of_runThrough hopening
    (.cons (.spaced (Cursor.passes_skipBlanks behind) hlist)
      (.cons (.spaced (Cursor.passes_skipBlanks last) hmatch) (.nil stop)))
  rw [← bracketed_eq] at hseries
  refine ⟨stop, log, ?_, ?_⟩
  · simpa [PartRun.added, hgap] using hseries
  · simpa using (hskip.trans hskip').trans hlast

/-! ## Every match ends -/

theorem not_leadsTo (id id' : Nat) : ¬ grammar.LeadsTo id id' := by
  rintro ⟨rule, hdef, hleads⟩
  match id with
  | 0 =>
      obtain rfl : definition = rule := by simpa [grammar] using hdef
      simp [definition_eq, not_nullable_letters] at hleads
  | id + 1 => simp [grammar] at hdef

theorem noLeftRecursion : grammar.NoLeftRecursion :=
  .of_rank id fun id id' h => absurd h (not_leadsTo id id')

theorem matchAt_bracketed_finished (c : Cursor) :
    ∃ verdict stop log, grammar.matchAt bracketed c = .finished verdict stop log := by
  apply Grammar.finished_of_all_defined (grammar.matchAt_ensures_undefinedFault bracketed c)
  · intro cell hcell
    obtain rfl : cell = list := by
      simpa [Grammar.reachable, Rule.nodes, Rule.nodesAll, grammar, definition_eq, bracketed_eq]
        using hcell.mem_reachable
    rfl
  · exact Grammar.matchAt_ne_unfinished noLeftRecursion bracketed c

/-! ## The language of the rule -/

/-- A bracketed list is matched at the start of an input exactly if one stands there, perhaps behind blanks,
and its text is the list without these.  If none stands there, the match fails and the cursor has not moved. -/
theorem bracketed_lists_matched (input : Text) (settings : Settings) :
    (∀ text offset,
      (grammar.matchAt bracketed (Cursor.start input settings)).reading = .matched text offset ↔
        ∃ blanks rest, Blanks blanks ∧ IsBracketed text ∧ input = blanks ++ text ++ rest ∧
          offset = Text.byteLength (blanks ++ text)) ∧
      ((∀ blanks text rest, Blanks blanks → IsBracketed text → input ≠ blanks ++ text ++ rest) →
        ∃ failure log, grammar.matchAt bracketed (Cursor.start input settings)
          = .finished (.error failure) (Cursor.start input settings) log) := by
  constructor
  · intro text offset
    constructor
    · intro h
      obtain ⟨stop, log, hmatch, rfl⟩ := Outcome.reading_eq_matched_iff.1 h
      obtain ⟨htext, hpass⟩ := isBracketed_of_matchAt_ok hmatch
      refine ⟨_, stop.ahead, blanks_gap _, htext, hpass.ahead_eq, ?_⟩
      simpa [Cursor.start] using hpass.offset_eq
    · rintro ⟨blanks, rest, hblanks, htext, hinput, rfl⟩
      obtain ⟨stop, log, hmatch, hpass⟩ :=
        matchAt_bracketed_of_ahead (c := Cursor.start input settings) rfl hinput hblanks htext
      refine Outcome.reading_eq_matched_iff.2 ⟨stop, log, hmatch, ?_⟩
      simpa [Cursor.start] using hpass.offset_eq
  · intro hnone
    obtain ⟨verdict, stop, log, hmatch⟩ := matchAt_bracketed_finished (Cursor.start input settings)
    cases verdict with
    | ok text =>
        obtain ⟨htext, hpass⟩ := isBracketed_of_matchAt_ok hmatch
        exact absurd hpass.ahead_eq (hnone _ text stop.ahead (blanks_gap _) htext)
    | error failure =>
        obtain rfl : stop = _ := Grammar.answers_of_matchAt hmatch
        exact ⟨failure, log, hmatch⟩

/-- A bracketed list that is matched has the form of one, and a comma too many makes it fail. -/
theorem comma_too_many_fails :
    (∃ blanks rest, Blanks blanks ∧ IsBracketed ['(', 'a', ' ', ',', 'b', ')'] ∧
      [' ', '(', 'a', ' ', ',', 'b', ')', ')'] = blanks ++ ['(', 'a', ' ', ',', 'b', ')'] ++ rest) ∧
      ∃ failure log, grammar.matchAt bracketed (Cursor.start ['(', 'a', ',', ')'] {})
        = .finished (.error failure) (Cursor.start ['(', 'a', ',', ')'] {}) log := by
  constructor
  · have hreading : (grammar.matchAt bracketed
        (Cursor.start [' ', '(', 'a', ' ', ',', 'b', ')', ')'] {})).reading
          = .matched ['(', 'a', ' ', ',', 'b', ')'] 7 := by
      decide +kernel
    obtain ⟨blanks, rest, hblanks, htext, hinput, -⟩ :=
      ((bracketed_lists_matched [' ', '(', 'a', ' ', ',', 'b', ')', ')'] {}).1 _ _).1 hreading
    exact ⟨blanks, rest, hblanks, htext, hinput⟩
  · have hfails : (grammar.matchAt bracketed (Cursor.start ['(', 'a', ',', ')'] {})).reading = .failed := by
      decide +kernel
    obtain ⟨hmatched, hfailed⟩ := bracketed_lists_matched ['(', 'a', ',', ')'] {}
    apply hfailed
    intro blanks text rest hblanks htext hinput
    have hreading := (hmatched text _).2 ⟨blanks, rest, hblanks, htext, hinput, rfl⟩
    rw [hfails] at hreading
    simp at hreading

/-- The grammar is built by giving the cell a definition that refers to it. -/
example :
    (Building.recursive "list" fun list =>
      return .oneOrMore .letter + .zeroOrMore (.char ',' + .ref list)).runOn {} = (.ok list, grammar) := rfl

end WordLists

end RuleMatch
