import RuleMatch.Fault
import RuleMatch.Settings.Basic
import RuleMatch.Text.Blank
import RuleMatch.Text.Width

/-!
# Cursors

A cursor stands between two characters of a text, its input.  It is kept as the characters behind it,
nearest first, and the characters ahead of it, so a look ahead, a step and a short way back cost no more
than the characters they pass.  The byte offset of the cursor is the width of what lies behind it.

A mark is nothing but such an offset.  `moveTo` goes to a mark, which may lie on either side of the
cursor, and refuses one that is no boundary of the input.  A cursor may also be *pinned* at an offset:
blanks are not skipped there, so that whatever is read next starts exactly at the pin.

Reading either succeeds and gives the moved cursor, or fails and gives none, so a failed read leaves the
cursor where it was.
-/

namespace RuleMatch

/-- Why a character could not be read. -/
inductive ReadFailure where
  | endOfInput (offset : Nat)
  | unexpected (found : Char) (offset : Nat)
  deriving DecidableEq, Repr

namespace ReadFailure

/-- The byte offset of a failed read. -/
def offset : ReadFailure → Nat
  | .endOfInput offset => offset
  | .unexpected _ offset => offset

/-- The character that was in the way, if there was one. -/
def found? : ReadFailure → Option Char
  | .endOfInput _ => none
  | .unexpected found _ => some found

/-- The message of a failed read. -/
def message : ReadFailure → String
  | .endOfInput offset => "Unexpected end of input at offset " ++ toString offset
  | .unexpected found offset =>
      "Unexpected character '" ++ found.toString ++ "' at offset " ++ toString offset

end ReadFailure

/-- A position in a text, with the pin and the settings that reading there goes by. -/
@[ext] structure Cursor where
  /-- The characters behind the cursor, nearest first. -/
  behind : Text
  /-- The characters ahead of the cursor. -/
  ahead : Text
  /-- The byte offset of the cursor. -/
  offset : Nat
  /-- Where blanks are not to be skipped. -/
  pinned : Option Nat
  /-- What keywords are told apart by. -/
  settings : Settings
  offset_eq : offset = Text.byteLength behind

namespace Cursor

/-- The cursor at the start of a text. -/
def start (input : Text) (settings : Settings) : Cursor where
  behind := []
  ahead := input
  offset := 0
  pinned := none
  settings := settings
  offset_eq := rfl

/-- The whole text that the cursor stands in. -/
def input (c : Cursor) : Text :=
  c.behind.reverse ++ c.ahead

/-! ## Looking ahead -/

/-- Whether nothing lies ahead. -/
def atEnd (c : Cursor) : Bool :=
  c.ahead.isEmpty

/-- The next character. -/
def peek? (c : Cursor) : Option Char :=
  c.ahead.head?

/-- The character that comes after `n` others. -/
def peekAt? (c : Cursor) (n : Nat) : Option Char :=
  c.ahead[n]?

/-- The first character ahead that is no blank. -/
def peekPastBlanks? (c : Cursor) : Option Char :=
  c.ahead.find? (!isBlank ·)

/-- Whether the text ahead starts with `text`. -/
def startsWith (c : Cursor) (text : Text) : Bool :=
  text.isPrefixOf c.ahead

/-! ## Reading -/

/-- The cursor after passing the character `ch`, with `ahead` left to read. -/
def pass (c : Cursor) (ch : Char) (ahead : Text) : Cursor :=
  { c with
    behind := ch :: c.behind
    ahead := ahead
    offset := c.offset + ch.utf8Size
    offset_eq := by simp [c.offset_eq, Nat.add_comm] }

/-- Passes `count` characters, or fails at the end of the input. -/
def advance (c : Cursor) : Nat → Except ReadFailure Cursor
  | 0 => .ok c
  | count + 1 =>
      match c.ahead with
      | [] => .error (.endOfInput c.offset)
      | ch :: ahead => (c.pass ch ahead).advance count

/-- Reads the next character if it satisfies `accepts`. -/
def readIf (c : Cursor) (accepts : Char → Bool) : Except ReadFailure (Char × Cursor) :=
  match c.ahead with
  | [] => .error (.endOfInput c.offset)
  | ch :: ahead =>
      if accepts ch then .ok (ch, c.pass ch ahead) else .error (.unexpected ch c.offset)

/-- Reads the next character. -/
def read (c : Cursor) : Except ReadFailure (Char × Cursor) :=
  c.readIf fun _ => true

/-! ## Pins and blanks -/

/-- Pins the cursor where it stands. -/
def pin (c : Cursor) : Cursor :=
  { c with pinned := some c.offset }

/-- Puts back a pin that was in force before. -/
def repin (c : Cursor) (previous : Option Nat) : Cursor :=
  { c with pinned := previous }

/-- Whether blanks may be skipped where the cursor stands. -/
def maySkip (c : Cursor) : Bool :=
  c.pinned != some c.offset

/-- Passes the blanks that the text ahead, given once more as `ahead`, starts with. -/
def passBlanks (c : Cursor) : (ahead : Text) → Nat × Cursor
  | [] => (0, c)
  | ch :: ahead =>
      if isBlank ch then
        let (passed, stop) := (c.pass ch ahead).passBlanks ahead
        (passed + 1, stop)
      else (0, c)

/-- Passes all blanks ahead, unless the cursor is pinned here, and counts them.  The pin is asked for
only once, so a pin further on does not stop a run of blanks. -/
def skipBlanks (c : Cursor) : Nat × Cursor :=
  if c.maySkip then c.passBlanks c.ahead else (0, c)

/-! ## Going back to a mark -/

/-- Moves characters from behind to ahead until the offset is `target`. -/
def retreat (target : Nat) : (behind : Text) → (offset : Nat) → (ahead : Text) → Option (Text × Text)
  | [], offset, ahead => if offset = target then some ([], ahead) else none
  | ch :: behind, offset, ahead =>
      if offset = target then some (ch :: behind, ahead)
      else retreat target behind (offset - ch.utf8Size) (ch :: ahead)

/-- Moves characters from ahead to behind until the offset is `target`. -/
def proceed (target : Nat) (behind : Text) (offset : Nat) : (ahead : Text) → Option (Text × Text)
  | [] => if offset = target then some (behind, []) else none
  | ch :: ahead =>
      if offset = target then some (behind, ch :: ahead)
      else proceed target (ch :: behind) (offset + ch.utf8Size) ahead

theorem byteLength_of_retreat {target offset : Nat} {behind ahead behind' ahead' : Text}
    (hmove : retreat target behind offset ahead = some (behind', ahead'))
    (hoffset : offset = Text.byteLength behind) : target = Text.byteLength behind' := by
  induction behind generalizing offset ahead with
  | nil =>
      simp only [retreat] at hmove
      split at hmove <;> simp_all
  | cons ch behind ih =>
      simp only [retreat] at hmove
      split at hmove
      · next htarget =>
          simp only [Option.some.injEq, Prod.mk.injEq] at hmove
          rw [← htarget, hoffset, hmove.1]
      · exact ih hmove (by simp [hoffset])

theorem byteLength_of_proceed {target offset : Nat} {behind ahead behind' ahead' : Text}
    (hmove : proceed target behind offset ahead = some (behind', ahead'))
    (hoffset : offset = Text.byteLength behind) : target = Text.byteLength behind' := by
  induction ahead generalizing offset behind with
  | nil =>
      simp only [proceed] at hmove
      split at hmove <;> simp_all
  | cons ch ahead ih =>
      simp only [proceed] at hmove
      split at hmove
      · next htarget =>
          simp only [Option.some.injEq, Prod.mk.injEq] at hmove
          rw [← htarget, hoffset, hmove.1]
      · exact ih hmove (by simp [hoffset, Nat.add_comm])

/-- Puts the cursor at an offset of its input, on whichever side that lies. -/
def moveTo (c : Cursor) (mark : Nat) : Except Fault Cursor :=
  if mark ≤ c.offset then
    match h : retreat mark c.behind c.offset c.ahead with
    | none => .error .foreignMark
    | some (behind, ahead) =>
        .ok { c with behind, ahead, offset := mark, offset_eq := byteLength_of_retreat h c.offset_eq }
  else
    match h : proceed mark c.behind c.offset c.ahead with
    | none => .error .foreignMark
    | some (behind, ahead) =>
        .ok { c with behind, ahead, offset := mark, offset_eq := byteLength_of_proceed h c.offset_eq }

/-- The text between an offset and the cursor. -/
def textFrom (c : Cursor) (mark : Nat) : Except Fault Text :=
  match retreat mark c.behind c.offset [] with
  | none => .error .brokenSlice
  | some (_, text) => .ok text

end Cursor

end RuleMatch
