import RuleMatch.Number.Decimal
import RuleMatch.Settings.Value
import RuleMatch.Text.Width

/-!
# Scalars of TOML documents

Strings, numbers and booleans as TOML writes them.  A string is basic, between double quotes and with
escapes, or literal, between single quotes and as it stands; both may run over several lines between
tripled quotes.  A number is read from the whole run of characters that could belong to it.

A reader answers what it read and what follows, or nothing if the text is not well formed.
-/

namespace RuleMatch.Settings.Toml

/-- Whether a character may stand by itself in a string or comment: any but the controls, of which only
the tab is allowed. -/
def isPlain (c : Char) : Bool :=
  c == '\t' || (32 ≤ c.toNat && c.toNat != 127)

/-- The value of a hexadecimal digit. -/
def hexDigit? (c : Char) : Option Nat :=
  if c.isDigit then some (c.toNat - 48)
  else if 'a' ≤ c ∧ c ≤ 'f' then some (c.toNat - 87)
  else if 'A' ≤ c ∧ c ≤ 'F' then some (c.toNat - 55)
  else none

/-- The character whose code point is written in hexadecimal digits. -/
def codePoint? (digits : Text) : Option Char := do
  let values ← digits.mapM hexDigit?
  let n := values.foldl (fun n d => 16 * n + d) 0
  if n.isValidChar then some (Char.ofNat n) else none

/-- The character behind a backslash, where it is one letter. -/
def escaped? (c : Char) : Option Char :=
  match c with
  | 'b' => some '\x08'
  | 't' => some '\t'
  | 'n' => some '\n'
  | 'f' => some '\x0c'
  | 'r' => some '\r'
  | '"' => some '"'
  | '\\' => some '\\'
  | _ => none

/-- Puts a character in front of what is read next. -/
def prepend (c : Char) (read : Option (Text × Text)) : Option (Text × Text) :=
  read.map fun (cs, rest) => (c :: cs, rest)

/-- Reads an escape, behind its backslash. -/
def readEscape : Text → Option (Char × Text)
  | 'u' :: a :: b :: c :: d :: rest => (codePoint? [a, b, c, d]).map (·, rest)
  | 'U' :: a :: b :: c :: d :: e :: f :: g :: h :: rest =>
      (codePoint? [a, b, c, d, e, f, g, h]).map (·, rest)
  | c :: rest => (escaped? c).map (·, rest)
  | [] => none

/-- Reads the inside of a basic string and the quote at its end, in at most `steps` steps. -/
def readBasic : (steps : Nat) → Text → Option (Text × Text)
  | 0, _ => none
  | steps + 1, text =>
      match text with
      | '"' :: rest => some ([], rest)
      | '\\' :: rest => do
          let (c, rest) ← readEscape rest
          prepend c (readBasic steps rest)
      | c :: rest => if isPlain c then prepend c (readBasic steps rest) else none
      | [] => none

/-- Reads the inside of a literal string and the quote at its end. -/
def readLiteral : Text → Option (Text × Text)
  | '\'' :: rest => some ([], rest)
  | c :: rest => if isPlain c then prepend c (readLiteral rest) else none
  | [] => none

/-- Leaves out the line break that a string over several lines may start with. -/
def afterLineBreak : Text → Text
  | '\n' :: rest => rest
  | '\r' :: '\n' :: rest => rest
  | text => text

/-- Passes blanks and line breaks. -/
def passGap : Text → Text
  | '\r' :: '\n' :: rest => passGap rest
  | c :: rest => if c == ' ' || c == '\t' || c == '\n' then passGap rest else c :: rest
  | [] => []

/-- Passes the line break that a backslash hides, with the blanks before it and all blanks and line breaks
after it. -/
def passHidden? (text : Text) : Option Text :=
  match text.dropWhile fun c => c == ' ' || c == '\t' with
  | '\n' :: rest => some (passGap rest)
  | '\r' :: '\n' :: rest => some (passGap rest)
  | _ => none

/-- Ends a string behind its tripled quote.  Up to two further quotes belong to the string. -/
def endTripled (quote : Char) : Text → Text × Text
  | a :: b :: rest =>
      if a == quote && b == quote then ([quote, quote], rest)
      else if a == quote then ([quote], b :: rest)
      else ([], a :: b :: rest)
  | [a] => if a == quote then ([quote], []) else ([], [a])
  | [] => ([], [])

/-- Reads the inside of a string over several lines and the tripled quote at its end, in at most `steps`
steps.  Only a basic string has escapes. -/
def readTripled (quote : Char) (escapes : Bool) : (steps : Nat) → Text → Option (Text × Text)
  | 0, _ => none
  | steps + 1, text =>
      match text with
      | [] => none
      | '\r' :: '\n' :: rest => prepend '\n' (readTripled quote escapes steps rest)
      | c :: rest =>
          if c == quote && rest.take 2 == [quote, quote] then some (endTripled quote (rest.drop 2))
          else if c == '\\' && escapes then
            match passHidden? rest with
            | some rest => readTripled quote escapes steps rest
            | none => do
                let (c, rest) ← readEscape rest
                prepend c (readTripled quote escapes steps rest)
          else if isPlain c || c == '\n' then prepend c (readTripled quote escapes steps rest)
          else none

/-- Reads a string of one line, whichever quote it starts with. -/
def readLine? : Text → Option (Text × Text)
  | '"' :: rest => readBasic (rest.length + 1) rest
  | '\'' :: rest => readLiteral rest
  | _ => none

/-- Reads a string. -/
def readString? (text : Text) : Option (Text × Text) :=
  match text with
  | '"' :: '"' :: '"' :: rest => readTripled '"' true (rest.length + 1) (afterLineBreak rest)
  | '\'' :: '\'' :: '\'' :: rest => readTripled '\'' false (rest.length + 1) (afterLineBreak rest)
  | text => readLine? text

/-! ## Numbers -/

/-- The digits of a run in which single underlines may stand between digits. -/
def digitRun? (isDigit : Char → Bool) : Text → Option Text
  | [] => none
  | [c] => if isDigit c then some [c] else none
  | c :: '_' :: rest => if isDigit c then (digitRun? isDigit rest).map (c :: ·) else none
  | c :: rest => if isDigit c then (digitRun? isDigit rest).map (c :: ·) else none

/-- The number that digits write in a base. -/
def numeral? (base : Nat) (digits : Text) : Option Nat := do
  let values ← digits.mapM hexDigit?
  return values.foldl (fun n d => base * n + d) 0

/-- A number written in a base other than ten. -/
def based? (base : Nat) (isDigit : Char → Bool) (text : Text) : Option Nat := do
  numeral? base (← digitRun? isDigit text)

/-- A sign and what follows it. -/
def signed : Text → Bool × Text
  | '-' :: rest => (true, rest)
  | '+' :: rest => (false, rest)
  | text => (false, text)

/-- The digits of a whole number, which starts with a zero only if it is zero. -/
def whole? (text : Text) : Option Text := do
  let digits ← digitRun? Char.isDigit text
  if digits.head? == some '0' && digits.length != 1 then none else some digits

/-- An integer, if it fits into 64 bits. -/
def integer? (text : Text) : Option Int := do
  let n : Int ← match text with
    | '0' :: 'x' :: rest => (based? 16 (fun c => (hexDigit? c).isSome) rest).map Int.ofNat
    | '0' :: 'o' :: rest => (based? 8 (fun c => '0' ≤ c ∧ c ≤ '7') rest).map Int.ofNat
    | '0' :: 'b' :: rest => (based? 2 (fun c => c == '0' || c == '1') rest).map Int.ofNat
    | text => do
        let (negative, rest) := signed text
        let size ← numeral? 10 (← whole? rest)
        pure (if negative then -(size : Int) else size)
  if Number.fitsWord n then some n else none

/-- A number with an exponent or with places behind the point, without its sign. -/
def decimal? (text : Text) : Option Float := do
  let isMark := fun c => c == 'e' || c == 'E'
  let mantissa := text.takeWhile fun c => !isMark c
  let exponent : Int ← match text.dropWhile fun c => !isMark c with
    | [] => some 0
    | _ :: rest => do
        let (negative, rest) := signed rest
        let size ← numeral? 10 (← digitRun? Char.isDigit rest)
        pure (if negative then -(size : Int) else size)
  let before ← whole? (mantissa.takeWhile (· != '.'))
  let places ← match mantissa.dropWhile (· != '.') with
    | [] => if mantissa.length = text.length then none else some []
    | _ :: rest => digitRun? Char.isDigit rest
  let digits ← numeral? 10 (before ++ places)
  return Number.ofDecimal digits (exponent - places.length)

/-- A floating-point number.  One that is too large for the format is refused, unless it is negative. -/
def float? (text : Text) : Option Float := do
  let (negative, rest) := signed text
  match rest with
  | ['i', 'n', 'f'] => return if negative then -(1 / 0) else 1 / 0
  | ['n', 'a', 'n'] => return 0 / 0
  | rest => do
      let x ← decimal? rest
      if x.isInf && !negative then none else some (if negative then -x else x)

/-- Whether a character may belong to a number or a word. -/
def isWordPart (c : Char) : Bool :=
  c.isAlphanum || c == '_' || c == '+' || c == '-' || c == '.'

/-- The number or boolean that a run of characters writes. -/
def word? (text : Text) : Option Scalar :=
  match text with
  | ['t', 'r', 'u', 'e'] => some (.bool true)
  | ['f', 'a', 'l', 's', 'e'] => some (.bool false)
  | text =>
      match integer? text with
      | some n => some (.int n)
      | none => (float? text).map .float

/-- Reads a scalar. -/
def readScalar? (text : Text) : Option (Scalar × Text) :=
  match text with
  | '"' :: _ | '\'' :: _ =>
      (readString? text).map fun (cs, rest) => (.text (String.ofList cs), rest)
  | text => (word? (text.takeWhile isWordPart)).map (·, text.dropWhile isWordPart)

end RuleMatch.Settings.Toml
