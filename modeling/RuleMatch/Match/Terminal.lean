import RuleMatch.Match.Failure
import RuleMatch.Rule.Description

/-!
# Matching terminals

A digit, a letter or a blank is read where the cursor stands.  A character and a keyword are read after
the blanks there, unless the cursor is pinned.

A keyword is refused if it runs on into a longer word: it ends in a word character and stands in front of
another one.  Copies of the keyword may follow each other directly, so the rest of the word may consist of
further whole copies.
-/

namespace RuleMatch

namespace Text

/-- Takes as many copies of `copy` off the front of a text as there are, at most `count` of them. -/
def dropCopies (copy : Text) : (count : Nat) → Text → Text
  | 0, text => text
  | count + 1, text =>
      if copy.isPrefixOf text then dropCopies copy count (text.drop copy.length) else text

/-- Whether a text is one or more copies of a text that is not empty. -/
def isCopies (copy text : Text) : Bool :=
  !copy.isEmpty && !text.isEmpty && (dropCopies copy text.length text).isEmpty

end Text

namespace Settings

/-- Whether a keyword in front of `ahead` runs on into a longer word. -/
def runsOn (settings : Settings) (keyword ahead : Text) : Bool :=
  settings.wordBoundary
    && keyword.getLast?.any settings.continuesWord
    && ahead.head?.any settings.continuesWord
    && !Text.isCopies keyword (settings.wordRun ahead)

end Settings

namespace Cursor

/-- What stands ahead in place of a keyword of `width` characters: that many characters and whatever
follows them up to the next blank. -/
def context (c : Cursor) (width : Nat) : String :=
  if c.atEnd then "end of input"
  else String.ofList (c.ahead.take width ++ (c.ahead.drop width).takeWhile (!isBlank ·))

/-- Reads one character, with a word about what is expected. -/
def readChar (c : Cursor) (expected : String) (accepts : Char → Bool) : Verdict × Cursor :=
  match c.readIf accepts with
  | .ok (ch, stop) => (.ok [ch], stop)
  | .error failure => (.error (.ofRead expected failure), c)

/-- Reads a keyword where the cursor stands. -/
def readKeyword (c : Cursor) (keyword : String) : Verdict × Cursor :=
  let text := keyword.toList
  if c.startsWith text then
    match c.advance text.length with
    | .error failure => (.error (.ofRead keyword failure), c)
    | .ok stop =>
        if c.settings.runsOn text stop.ahead then
          (.error (.wrongKeyword keyword (c.context text.length) c.offset), c)
        else (.ok text, stop)
  else (.error (.wrongKeyword keyword (c.context text.length) c.offset), c)

end Cursor

namespace Terminal

/-- Reads a terminal.  If that fails, the cursor may have moved over blanks. -/
def read (terminal : Terminal) (c : Cursor) : Verdict × Cursor :=
  match terminal with
  | .digit => c.readChar terminal.describe Char.isDigit
  | .letter => c.readChar terminal.describe Char.isAlpha
  | .blank => c.readChar terminal.describe isBlank
  | .char ch => c.skipBlanks.2.readChar terminal.describe (· == ch)
  | .keyword text => c.skipBlanks.2.readKeyword text

end Terminal

end RuleMatch
