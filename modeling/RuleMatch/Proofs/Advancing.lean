import RuleMatch.Match.Operation
import RuleMatch.Proofs.Lexemes

/-!
# Advancing

To advance by a number of characters is to read that many, one after the other, and to keep the place that the last
read has come to.  If a read fails on the way, nothing is kept at all, and the failure is that of the end of the
input: it gives the width of the whole input, wherever the cursor stood (`advance_is_repeated_reading`).  Offsets
count bytes and `count` counts characters, so how far an advance goes is the width of the characters passed.

Counts may be larger than any input.
-/

namespace RuleMatch

namespace Cursor

/-- Reads characters one after the other, up to the first failure. -/
def readMany : (count : Nat) → Cursor → Except ReadFailure (Text × Cursor)
  | 0, c => .ok ([], c)
  | count + 1, c => do
      let (ch, next) ← c.read
      let (text, stop) ← readMany count next
      return (ch :: text, stop)

theorem read_of_nil {c : Cursor} (h : c.ahead = []) : c.read = .error (.endOfInput c.offset) := by
  rw [read, readIf_of_nil h]

theorem read_of_cons {c : Cursor} {ch : Char} {ahead : Text} (h : c.ahead = ch :: ahead) :
    c.read = .ok (ch, c.pass ch ahead) := by
  rw [read, readIf_of_cons h, if_pos rfl]

/-- Reads in a row give the characters that lie ahead and come to where an advance does, or fail as it does. -/
theorem readMany_eq (count : Nat) (c : Cursor) :
    readMany count c = (c.advance count).map fun stop => (c.ahead.take count, stop) := by
  induction count generalizing c with
  | zero => rfl
  | succ count ih =>
      cases hahead : c.ahead with
      | nil =>
          rw [readMany, read_of_nil hahead, advance_succ_of_nil hahead]
          rfl
      | cons ch ahead =>
          have hnext : (c.pass ch ahead).ahead = ahead := rfl
          rw [readMany, read_of_cons hahead, advance_succ_of_cons hahead, List.take_succ_cons]
          show (readMany count (c.pass ch ahead) >>= fun rest => pure (ch :: rest.1, rest.2)) = _
          rw [ih, hnext]
          cases (c.pass ch ahead).advance count <;> rfl

/-- An advance by two numbers at once. -/
theorem advance_add (count more : Nat) (c : Cursor) :
    c.advance (count + more) = c.advance count >>= fun middle => middle.advance more := by
  induction count generalizing c with
  | zero =>
      rw [Nat.zero_add]
      rfl
  | succ count ih =>
      rw [Nat.add_right_comm]
      cases hahead : c.ahead with
      | nil =>
          rw [advance_succ_of_nil hahead, advance_succ_of_nil hahead]
          rfl
      | cons ch ahead =>
          rw [advance_succ_of_cons hahead, advance_succ_of_cons hahead]
          exact ih (c.pass ch ahead)

theorem advance_add_eq_ok_iff {c stop : Cursor} {count more : Nat} :
    c.advance (count + more) = .ok stop ↔
      ∃ middle, c.advance count = .ok middle ∧ middle.advance more = .ok stop := by
  rw [advance_add]
  constructor
  · intro h
    cases hfirst : c.advance count with
    | error failure =>
        rw [hfirst] at h
        cases h
    | ok middle =>
        rw [hfirst] at h
        exact ⟨middle, rfl, h⟩
  · rintro ⟨middle, hfirst, hsecond⟩
    rw [hfirst]
    exact hsecond

/-- An advance that goes too far fails at the end of the input, however far it goes. -/
theorem advance_of_lt {c : Cursor} {count : Nat} (h : c.ahead.length < count) :
    c.advance count = .error (.endOfInput (Text.byteLength c.input)) := by
  induction count generalizing c with
  | zero => exact absurd h (Nat.not_lt_zero _)
  | succ count ih =>
      cases hahead : c.ahead with
      | nil =>
          have hend : c.offset = Text.byteLength c.input := by
            rw [c.byteLength_input, hahead, Text.byteLength_nil, Nat.add_zero]
          rw [advance_succ_of_nil hahead, hend]
      | cons ch ahead =>
          have hinput : (c.pass ch ahead).input = c.input := (sameFrame_pass hahead).input_eq
          have hrest : (c.pass ch ahead).ahead.length < count := by
            rw [hahead, List.length_cons] at h
            exact Nat.lt_of_succ_lt_succ h
          rw [advance_succ_of_cons hahead, ih hrest, hinput]

theorem exists_advance_iff {c : Cursor} {count : Nat} :
    (∃ stop, c.advance count = .ok stop) ↔ count ≤ c.ahead.length := by
  constructor
  · rintro ⟨stop, hstop⟩
    rcases Nat.lt_or_ge c.ahead.length count with hlong | hle
    · rw [advance_of_lt hlong] at hstop
      cases hstop
    · exact hle
  · intro hle
    obtain ⟨stop, hstop, -⟩ := advance_of_append (List.take_append_drop count c.ahead).symm
    rw [List.length_take_of_le hle] at hstop
    exact ⟨stop, hstop⟩

/-- What comes after some characters is what comes next behind them. -/
theorem peekAt?_of_advance {c stop : Cursor} {count : Nat} (h : c.advance count = .ok stop) :
    c.peekAt? count = stop.peek? := by
  have hahead : stop.ahead = c.ahead.drop count :=
    (passes_advance h).ahead_of_append (List.take_append_drop count c.ahead).symm
  rw [peekAt?, peek?, hahead, List.head?_drop]

/-- To advance is to read one character after the other.  It succeeds if and only if there are as many characters,
and then the cursor stands where the reads leave it, which is one move by the width of what they have read;
otherwise the failure is that of the end of the input, and the cursor has not moved.  So an advance may be made in
two parts.  What a peek shows behind some characters is what stands next after them. -/
theorem advance_is_repeated_reading (g : Grammar) (c : Cursor) (count : Nat) :
    readMany count c = (c.advance count).map (fun stop => (c.ahead.take count, stop)) ∧
      ((∃ stop, c.advance count = .ok stop) ↔ count ≤ c.ahead.length) ∧
      (∀ stop, c.advance count = .ok stop →
        c.Passes (c.ahead.take count) stop ∧
          stop.offset = c.offset + Text.byteLength (c.ahead.take count) ∧
          c.moveTo (c.offset + Text.byteLength (c.ahead.take count)) = .ok stop ∧
          (Operation.advance count).perform g c = .finished (.ok ()) stop [] ∧
          c.peekAt? count = stop.peek?) ∧
      (c.ahead.length < count →
        c.advance count = .error (.endOfInput (Text.byteLength c.input)) ∧
          (Operation.advance count).perform g c
            = .finished (.error (.endOfInput (Text.byteLength c.input))) c []) ∧
      (∀ more stop, c.advance (count + more) = .ok stop ↔
        ∃ middle, c.advance count = .ok middle ∧ middle.advance more = .ok stop) ∧
      (c.peekAt? count = none ↔ c.ahead.length < count + 1) := by
  refine ⟨readMany_eq count c, exists_advance_iff, ?_, ?_, fun more stop => advance_add_eq_ok_iff, ?_⟩
  · intro stop hstop
    have hpass := passes_advance hstop
    have hmove : c.moveTo (c.offset + Text.byteLength (c.ahead.take count)) = .ok stop :=
      moveTo_eq_ok_iff.2 ⟨hpass.frame, hpass.offset_eq⟩
    refine ⟨hpass, hpass.offset_eq, hmove, ?_, peekAt?_of_advance hstop⟩
    rw [Operation.perform, hstop]
    rfl
  · intro hlong
    have herror := advance_of_lt hlong
    refine ⟨herror, ?_⟩
    rw [Operation.perform, herror]
    rfl
  · rw [peekAt?, List.getElem?_eq_none_iff]
    exact Nat.lt_succ_iff.symm

/-- Over letters of one, two and three bytes. -/
theorem advance_over_wide_letters :
    (∃ stop, (Cursor.start ['a', 'é', '漢', 'b'] {}).advance 3 = .ok stop ∧ stop.offset = 6 ∧
      stop.peek? = some 'b') ∧
    (Cursor.start ['a', 'é', '漢', 'b'] {}).advance 18446744073709551615 = .error (.endOfInput 7) := by
  obtain ⟨-, hthree, hstop, -⟩ := advance_is_repeated_reading {} (Cursor.start ['a', 'é', '漢', 'b'] {}) 3
  obtain ⟨-, -, -, hlong, -⟩ :=
    advance_is_repeated_reading {} (Cursor.start ['a', 'é', '漢', 'b'] {}) 18446744073709551615
  obtain ⟨stop, hadvance⟩ := hthree.2 (by decide)
  obtain ⟨-, hoffset, -, -, hpeek⟩ := hstop stop hadvance
  exact ⟨⟨stop, hadvance, hoffset, hpeek.symm⟩, (hlong (by decide)).1⟩

end Cursor

end RuleMatch
