import HomeVoice.Decimal.Reading
import HomeVoice.Time.Calendar
import HomeVoice.Toml.Scan

/-!
# Strings, numbers and dates of TOML

Strings come in four forms, with and without escapes and on one or several lines. Integers have
64 bits with a sign and may be written in four bases. Of floating numbers and of dates only the
form is of interest here.
-/

namespace HomeVoice.Toml

open Scan

/-- A space or a tab. -/
def isSpace (c : Char) : Bool := c == ' ' || c == '\t'

/-- A character that may stand in comments and strings: no control character but the tab. -/
def isTextChar (c : Char) : Bool := c == '\t' || (0x20 ≤ c.toNat && c.toNat ≠ 0x7F)

/-- A line end, in either form. -/
def newline : Scan Unit := word ['\n'] <|> word ['\r', '\n']

/-- Spaces and tabs. -/
def spaces : Scan Unit := do let _ ← takeWhile isSpace

/-- A comment without its line end. -/
def comment : Scan Unit := do
  let _ ← char '#'
  let _ ← takeWhile isTextChar

/-- The end of a line, or of the text. -/
def lineEnd : Scan Unit := newline <|> atEnd

/-- What may stand behind a complete statement on its line. -/
def lineRest : Scan Unit := do
  spaces
  let _ ← maybe comment
  lineEnd

/-- Blanks, comments and line ends. -/
def gaps : Scan Unit := do
  let _ ← many ((do let _ ← takeWhile1 isSpace) <|> newline <|> comment)

/-- The value of a hexadecimal digit. -/
def hexDigit (c : Char) : Option Nat :=
  if c.isDigit then some (Decimal.digitValue c)
  else if 'a' ≤ c ∧ c ≤ 'f' then some (c.toNat - 'a'.toNat + 10)
  else if 'A' ≤ c ∧ c ≤ 'F' then some (c.toNat - 'A'.toNat + 10)
  else none

/-- The character of a code point in so many hexadecimal digits. -/
def codePoint (digits : Nat) : Scan Char := do
  let text ← get
  let written := text.take digits
  set (text.drop digits)
  if written.length < digits then failure
  match written.mapM hexDigit with
  | none => failure
  | some values =>
    let code := values.foldl (fun code digit => 16 * code + digit) 0
    if code.isValidChar then return Char.ofNat code else failure

/-- What stands behind a backslash. -/
def escape : Scan Char := do
  match ← satisfy fun _ => true with
  | 'b' => return '\x08'
  | 't' => return '\t'
  | 'n' => return '\n'
  | 'f' => return '\x0c'
  | 'r' => return '\r'
  | '"' => return '"'
  | '\\' => return '\\'
  | 'u' => codePoint 4
  | 'U' => codePoint 8
  | _ => failure

/-- A string on one line, with escapes. -/
def basicString : Scan (List Char) := do
  let _ ← char '"'
  let text ← many (satisfy (fun c => isTextChar c && c ≠ '"' && c ≠ '\\')
    <|> (char '\\' *> escape))
  let _ ← char '"'
  return text

/-- A string on one line, without escapes. -/
def literalString : Scan (List Char) := do
  let _ ← char '\''
  let text ← takeWhile fun c => isTextChar c && c ≠ '\''
  let _ ← char '\''
  return text

/-- A backslash at the end of a line and all blanks and line ends behind it. -/
def lineContinuation : Scan (List Char) := do
  let _ ← char '\\'
  spaces
  newline
  let _ ← many ((do let _ ← takeWhile1 isSpace) <|> newline)
  return []

/-- One or two quotation marks that do not belong to three. -/
def looseQuotes (quote : Char) : Scan (List Char) := do
  let quotes ← takeWhile1 (· == quote)
  if quotes.length < 3 then return quotes else failure

/-- The end of a string on several lines, with up to two quotation marks that belong to the
string. -/
def closingQuotes (quote : Char) : Scan (List Char) := do
  let text ← get
  let quotes := (text.takeWhile (· == quote)).take 5
  if quotes.length < 3 then failure
  set (text.drop quotes.length)
  return quotes.drop 3

/-- A string on several lines with given pieces. A line end right behind the opening is dropped. -/
def multiline (quote : Char) (piece : Scan (List Char)) : Scan (List Char) := do
  word [quote, quote, quote]
  let _ ← maybe newline
  let lineBreak : Scan (List Char) := do newline; return ['\n']
  let text ← many (piece <|> lineBreak <|> looseQuotes quote)
  return text.flatten ++ (← closingQuotes quote)

def multilineBasicString : Scan (List Char) :=
  multiline '"' <|
    takeWhile1 (fun c => isTextChar c && c ≠ '"' && c ≠ '\\') <|> lineContinuation
      <|> (do return [← char '\\' *> escape])

def multilineLiteralString : Scan (List Char) :=
  multiline '\'' (takeWhile1 fun c => isTextChar c && c ≠ '\'')

def stringText : Scan (List Char) :=
  multilineBasicString <|> basicString <|> multilineLiteralString <|> literalString

/-- Digits of a class with single underscores between them. -/
def digitGroups (isDigit : Char → Bool) : Scan (List Char) := do
  let groups ← separated1 (takeWhile1 isDigit) (char '_')
  return groups.flatten

/-- A sign, if there is one; whether it is a minus. -/
def sign : Scan Bool := do return (← maybe (char '+' <|> char '-')) == some '-'

/-- The digits of a decimal integer, which has no leading zeros. -/
def decimalDigits : Scan (List Char) := do
  if (← peek) = some '0' then return [← char '0'] else digitGroups Char.isDigit

/-- The value of digits in a base. -/
def ofDigits (base : Nat) (digits : List Char) : Nat :=
  digits.foldl (fun value digit => base * value + (hexDigit digit).getD 0) 0

/-- Integers lie below this number and not below its negative. -/
def integerLimit : Nat := 0x8000000000000000

/-- An integer in another base, behind the letter of the base. -/
def basedInteger (letter : Char) (base : Nat) : Scan Int := do
  word ['0', letter]
  let digits ← digitGroups fun c => (hexDigit c).any (· < base)
  let value := ofDigits base digits
  if value < integerLimit then return value else failure

def decimalInteger : Scan Int := do
  let negative ← sign
  let value : Int := ofDigits 10 (← decimalDigits)
  let signed := if negative then -value else value
  if -(integerLimit : Int) ≤ signed ∧ signed < integerLimit then return signed else failure

def integer : Scan Int :=
  basedInteger 'x' 16 <|> basedInteger 'o' 8 <|> basedInteger 'b' 2 <|> decimalInteger

/-- The exponent of a floating number. -/
def exponent : Scan Unit := do
  let _ ← char 'e' <|> char 'E'
  let _ ← sign
  let _ ← digitGroups Char.isDigit

/-- A floating number with a point or an exponent. It must not be too large to be finite; one that
is too small a negative number is let through. -/
def floatingDigits : Scan Unit := do
  let text ← taken do
    let _ ← sign
    let _ ← decimalDigits
    exponent <|> do
      let _ ← char '.'
      let _ ← digitGroups Char.isDigit
      let _ ← maybe exponent
  match Decimal.readNumber (String.ofList (text.filter (· ≠ '_'))) with
  | some value => if value.beq (1 / 0) then failure
  | none => failure

/-- Infinity or not-a-number. -/
def floatingWord : Scan Unit := do
  let _ ← sign
  word "inf".toList <|> word "nan".toList

def floating : Scan Unit := floatingDigits <|> floatingWord

/-- A number of so many digits that lies within bounds. -/
def fixedNumber (digits low high : Nat) : Scan Nat := do
  let text ← get
  let written := text.take digits
  if written.length < digits ∨ !written.all Char.isDigit then failure
  set (text.drop digits)
  let value := Decimal.natOfDigits written
  if low ≤ value ∧ value ≤ high then return value else failure

/-- A date that exists. -/
def date : Scan Unit := do
  let year ← fixedNumber 4 0 9999
  let _ ← char '-'
  let month ← fixedNumber 2 1 12
  let _ ← char '-'
  let day ← fixedNumber 2 1 31
  if (⟨year, month, day⟩ : Time.Date).isValid then return () else failure

/-- A time of day. -/
def timeOfDay : Scan Unit := do
  let _ ← fixedNumber 2 0 23
  let _ ← char ':'
  let _ ← fixedNumber 2 0 59
  let _ ← char ':'
  let _ ← fixedNumber 2 0 60
  let _ ← maybe (char '.' *> takeWhile1 Char.isDigit)

/-- An offset to universal time. -/
def offset : Scan Unit :=
  (do let _ ← char 'Z' <|> char 'z') <|> do
    let _ ← char '+' <|> char '-'
    let _ ← fixedNumber 2 0 23
    let _ ← char ':'
    let _ ← fixedNumber 2 0 59

/-- A date, a time of day, or both. -/
def dateTime : Scan Unit :=
  (do
    date
    let _ ← maybe do
      let _ ← char 'T' <|> char 't' <|> char ' '
      timeOfDay
      let _ ← maybe offset)
  <|> timeOfDay

end HomeVoice.Toml
