import RuleMatch.Text.Width

/-!
# Blank characters

Between the tokens of a grammar a text may hold blanks.  Exactly four characters are blank: space,
tab, carriage return and line feed.  `blankRun` and `afterBlanks` cut a text after the run of
blanks that it starts with.
-/

namespace RuleMatch

/-- Space, tab, carriage return and line feed are blank, and nothing else is. -/
def isBlank (c : Char) : Bool :=
  c == ' ' || c == '\t' || c == '\r' || c == '\n'

namespace Text

/-- The run of blanks that a text starts with. -/
def blankRun (cs : Text) : Text :=
  cs.takeWhile isBlank

/-- What follows the run of blanks that a text starts with. -/
def afterBlanks (cs : Text) : Text :=
  cs.dropWhile isBlank

theorem blankRun_append_afterBlanks (cs : Text) : blankRun cs ++ afterBlanks cs = cs :=
  List.takeWhile_append_dropWhile

theorem isBlank_of_mem_blankRun {c : Char} {cs : Text} (h : c ∈ blankRun cs) :
    isBlank c = true :=
  List.all_eq_true.1 List.all_takeWhile c h

theorem head?_afterBlanks_not_isBlank {c : Char} {cs : Text} (h : (afterBlanks cs).head? = some c) :
    isBlank c = false := by
  induction cs with
  | nil => simp [afterBlanks] at h
  | cons d ds ih =>
      by_cases hd : isBlank d = true
      · simp only [afterBlanks, List.dropWhile_cons, hd, if_true] at h
        exact ih h
      · simp only [afterBlanks, List.dropWhile_cons, hd] at h
        simp only [Bool.false_eq_true, if_false, List.head?_cons, Option.some.injEq] at h
        subst h
        simpa using hd

/-- A run of blanks ends at the first character that is none. -/
theorem blankRun_append {blanks rest : Text} (hblanks : ∀ c ∈ blanks, isBlank c = true)
    (hrest : ∀ c, rest.head? = some c → isBlank c = false) : blankRun (blanks ++ rest) = blanks := by
  rw [blankRun, List.takeWhile_append_of_pos hblanks]
  cases rest with
  | nil => simp
  | cons c rest => simp [hrest c rfl]

/-- Behind a run of blanks stands no other. -/
theorem blankRun_afterBlanks (cs : Text) : blankRun (afterBlanks cs) = [] :=
  blankRun_append (List.forall_mem_nil _) fun _ => head?_afterBlanks_not_isBlank

end Text

end RuleMatch
