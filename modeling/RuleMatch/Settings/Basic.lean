import RuleMatch.Text.Alphanumeric
import RuleMatch.Text.Width

/-!
# Settings of keyword matching

A keyword that ends in a word character must not run on into another word character, unless the settings
say otherwise.  Letters and digits are word characters; the settings name the others.
-/

namespace RuleMatch

/-- How keywords are told apart from longer words. -/
structure Settings where
  /-- Whether a keyword is refused in front of a word character. -/
  wordBoundary : Bool := true
  /-- The word characters besides letters and digits. -/
  extraWordChars : String := "_"
  deriving DecidableEq, Repr

instance : Inhabited Settings := ⟨{}⟩

namespace Settings

/-- Whether a character continues a word. -/
def continuesWord (settings : Settings) (c : Char) : Bool :=
  isAlphanumeric c || settings.extraWordChars.toList.contains c

/-- The run of word characters that a text starts with. -/
def wordRun (settings : Settings) (cs : Text) : Text :=
  cs.takeWhile settings.continuesWord

end Settings

end RuleMatch
