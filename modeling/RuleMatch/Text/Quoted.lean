import RuleMatch.Text.EscapedPoints
import RuleMatch.Text.PointTable
import RuleMatch.Text.Width

/-!
# Quoted strings

A quoted string stands between double quotes and shows every character so that it can be told apart from
any other.  Quote and backslash are marked by a backslash, as are the usual controls; a character that is
not visible by itself is written by its code point.
-/

namespace RuleMatch

namespace Text

/-- A number in lowercase hexadecimal digits. -/
def hex (n : Nat) : Text :=
  Nat.toDigits 16 n

/-- How a character is written inside a quoted string. -/
def escape (c : Char) : Text :=
  if c = '\x00' then ['\\', '0']
  else if c = '\t' then ['\\', 't']
  else if c = '\r' then ['\\', 'r']
  else if c = '\n' then ['\\', 'n']
  else if c = '\\' then ['\\', '\\']
  else if c = '"' then ['\\', '"']
  else if PointTable.contains escapedPoints c then ['\\', 'u', '\x7b'] ++ hex c.toNat ++ ['\x7d']
  else [c]

/-- A text between quotes. -/
def quote (cs : Text) : Text :=
  '"' :: cs.flatMap escape ++ ['"']

end Text

/-- A string between quotes. -/
def quoted (s : String) : String :=
  String.ofList (Text.quote s.toList)

end RuleMatch
