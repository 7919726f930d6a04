import HomeVoice.Json.Draft
import HomeVoice.Text.Characters

/-!
# Reading documents

The reader is an automaton that is fed one character at a time. What it has read of the lists and
objects around the current place lies on a stack, so the nesting of a text is bounded by nothing.
A text that goes wrong leaves the draft of what stood in front of the fault. Of a text in bytes only
the strings have to be in UTF-8, and of them those that somebody looks at.
-/

namespace HomeVoice.Json

/-- A list or an object around the current place, with its parts in reverse order. -/
inductive Frame where
  | items (before : List Draft)
  /-- An object in which a name comes next. -/
  | naming (before : List (Draft × Draft))
  /-- An object in which the value for this name comes next. -/
  | valuing (before : List (Draft × Draft)) (name : Draft)
  deriving Repr

/-- How far a number text has come. -/
inductive NumberStage where
  | sign | zero | whole | point | places | mark | exponentSign | exponent
  deriving DecidableEq, Repr

namespace NumberStage

/-- A number may end here. -/
def isFinal : NumberStage → Bool
  | .zero | .whole | .places | .exponent => true
  | _ => false

/-- The stage behind one more character; none if the character is no part of the number. -/
def next : NumberStage → Char → Option NumberStage
  | .sign, c => if c = '0' then some .zero else if c.isDigit then some .whole else none
  | .zero, c =>
    if c = '.' then some .point else if c = 'e' ∨ c = 'E' then some .mark else none
  | .whole, c =>
    if c.isDigit then some .whole else if c = '.' then some .point
    else if c = 'e' ∨ c = 'E' then some .mark else none
  | .point, c => if c.isDigit then some .places else none
  | .places, c =>
    if c.isDigit then some .places else if c = 'e' ∨ c = 'E' then some .mark else none
  | .mark, c =>
    if c.isDigit then some .exponent else if c = '+' ∨ c = '-' then some .exponentSign else none
  | .exponentSign, c => if c.isDigit then some .exponent else none
  | .exponent, c => if c.isDigit then some .exponent else none

/-- The number is complete in front of this character. No digit may follow a leading zero. -/
def endsBefore (stage : NumberStage) (c : Char) : Bool :=
  stage.isFinal && !(stage == .zero && c.isDigit)

end NumberStage

/-- Where inside a string the reader is. -/
inductive StringStage where
  | plain
  /-- Behind a backslash. -/
  | escape
  /-- Inside the four digits of an escape: how many are missing and the number so far. -/
  | digits (missing : Nat) (number : Nat)
  deriving DecidableEq, Repr

/-- A string while it is read. -/
structure OpenString where
  /-- The characters in reverse order. -/
  read : List Char
  /-- A first half of a surrogate pair that waits for its second half. -/
  half : Option Nat
  sound : Bool
  stage : StringStage
  deriving Repr

namespace OpenString

def empty : OpenString := ⟨[], none, true, .plain⟩

/-- One more code unit. Halves that belong together become one character; a half that stands
alone makes the string unsound. -/
def addUnit (text : OpenString) (unit : Nat) : OpenString :=
  match text.half with
  | some high =>
    if 0xDC00 ≤ unit ∧ unit ≤ 0xDFFF then
      let c := Char.ofNat (0x10000 + (high - 0xD800) * 0x400 + (unit - 0xDC00))
      { text with read := c :: text.read, half := none, stage := .plain }
    else if 0xD800 ≤ unit ∧ unit ≤ 0xDBFF then
      { text with half := some unit, sound := false, stage := .plain }
    else
      { read := Char.ofNat unit :: text.read, half := none, sound := false, stage := .plain }
  | none =>
    if 0xDC00 ≤ unit ∧ unit ≤ 0xDFFF then { text with sound := false, stage := .plain }
    else if 0xD800 ≤ unit ∧ unit ≤ 0xDBFF then { text with half := some unit, stage := .plain }
    else { text with read := Char.ofNat unit :: text.read, stage := .plain }

/-- One more character that is not written as a code unit. -/
def addChar (text : OpenString) (c : Char) : OpenString :=
  { read := c :: text.read
    half := none
    sound := text.sound && text.half.isNone
    stage := .plain }

/-- The string at its closing quotation mark. -/
def close (text : OpenString) : Option String :=
  if text.sound && text.half.isNone then some (String.ofList text.read.reverse) else none

/-- The character that a letter behind a backslash stands for. -/
def escaped : Char → Option Char
  | '"' => some '"'
  | '\\' => some '\\'
  | '/' => some '/'
  | 'b' => some '\x08'
  | 'f' => some '\x0c'
  | 'n' => some '\n'
  | 'r' => some '\r'
  | 't' => some '\t'
  | _ => none

/-- The value of a hexadecimal digit. -/
def hexDigit (c : Char) : Option Nat :=
  if '0' ≤ c ∧ c ≤ '9' then some (c.toNat - '0'.toNat)
  else if 'a' ≤ c ∧ c ≤ 'f' then some (c.toNat - 'a'.toNat + 10)
  else if 'A' ≤ c ∧ c ≤ 'F' then some (c.toNat - 'A'.toNat + 10)
  else none

/-- The string behind one more character that does not close it; none if the character cannot
stand there. -/
def next (text : OpenString) (c : Char) : Option OpenString :=
  match text.stage with
  | .plain =>
    if c = '\\' then some { text with stage := .escape }
    else if c.toNat < 0x20 then none
    else some (text.addChar c)
  | .escape =>
    if c = 'u' then some { text with stage := .digits 4 0 }
    else (escaped c).map text.addChar
  | .digits missing number => (hexDigit c).map fun digit =>
    if missing ≤ 1 then text.addUnit (16 * number + digit)
    else { text with stage := .digits (missing - 1) (16 * number + digit) }

end OpenString

/-- What the reader expects or is in the middle of. -/
inductive Mode where
  /-- A value, or a string in the place of a name. -/
  | value
  /-- The first item of a list or its end. -/
  | firstItem
  /-- The first name of an object or its end. -/
  | firstName
  /-- The colon behind a name. -/
  | colon
  /-- A comma or the end of a list or an object. -/
  | separator
  /-- The rest of a word and what the word means. -/
  | word (left : List Char) (meaning : Draft)
  /-- A number, with its characters so far in reverse order. -/
  | number (read : List Char) (stage : NumberStage)
  | string (text : OpenString)
  /-- The whole document is read; whether only blanks came behind it. -/
  | finished (root : Draft) (clean : Bool)
  /-- The text went wrong. -/
  | stopped (root : Draft)
  deriving Repr

/-- What a whole text holds. -/
structure Document where
  root : Draft
  /-- Nothing but blanks stands behind the root. -/
  clean : Bool
  deriving Repr

/-- The reader between two characters. -/
structure Reading where
  stack : List Frame
  mode : Mode
  deriving Repr

namespace Reading

def start : Reading := ⟨[], .value⟩

/-- The blanks of documents. -/
def isSpace (c : Char) : Bool := c == ' ' || c == '\n' || c == '\t' || c == '\r'

/-- The draft that is left when the reading stops at a value inside these containers. -/
def abandon (value : Draft) : List Frame → Draft
  | [] => value
  | .items before :: outer => abandon (.list (value :: before).reverse false) outer
  | .naming before :: outer => abandon (.object ((value, .broken) :: before).reverse false) outer
  | .valuing before name :: outer =>
    abandon (.object ((name, value) :: before).reverse false) outer

/-- Stop at a value. -/
def stop (value : Draft) (stack : List Frame) : Reading := ⟨[], .stopped (abandon value stack)⟩

/-- Go on behind a value. In the place of a name only a string lets the reading go on. -/
def accept (value : Draft) : List Frame → Reading
  | [] => ⟨[], .finished value true⟩
  | .items before :: outer => ⟨.items (value :: before) :: outer, .separator⟩
  | .naming before :: outer =>
    match value with
    | .string _ => ⟨.valuing before value :: outer, .colon⟩
    | _ => stop value (.naming before :: outer)
  | .valuing before name :: outer => ⟨.naming ((name, value) :: before) :: outer, .separator⟩

/-- Read the first character of a value. -/
def beginValue (c : Char) (stack : List Frame) : Reading :=
  if c = '"' then ⟨stack, .string .empty⟩
  else if c = '[' then ⟨.items [] :: stack, .firstItem⟩
  else if c = '\x7b' then ⟨.naming [] :: stack, .firstName⟩
  else if c = '-' then ⟨stack, .number [c] .sign⟩
  else if c = '0' then ⟨stack, .number [c] .zero⟩
  else if c.isDigit then ⟨stack, .number [c] .whole⟩
  else if c = 'n' then ⟨stack, .word ['u', 'l', 'l'] .null⟩
  else if c = 't' then ⟨stack, .word ['r', 'u', 'e'] (.boolean true)⟩
  else if c = 'f' then ⟨stack, .word ['a', 'l', 's', 'e'] (.boolean false)⟩
  else stop .broken stack

/-- Read a character that ends a list or an object or stands between its parts. -/
def separate (c : Char) : List Frame → Reading
  | .items before :: outer =>
    if c = ',' then ⟨.items before :: outer, .value⟩
    else if c = ']' then accept (.list before.reverse true) outer
    else stop .broken (.items before :: outer)
  | .naming before :: outer =>
    if c = ',' then ⟨.naming before :: outer, .value⟩
    else if c = '\x7d' then accept (.object before.reverse true) outer
    else stop .broken (.naming before :: outer)
  | stack => stop .broken stack

/-- Read one character behind a complete number. -/
def afterNumber (c : Char) (reading : Reading) : Reading :=
  match reading.mode with
  | .separator => if isSpace c then reading else separate c reading.stack
  | .finished root _ => if isSpace c then reading else ⟨[], .finished root false⟩
  | _ => reading

/-- Read one character. -/
def step (reading : Reading) (c : Char) : Reading :=
  let stack := reading.stack
  match reading.mode with
  | .value => if isSpace c then reading else beginValue c stack
  | .firstItem =>
    if isSpace c then reading else if c = ']' then separate c stack else beginValue c stack
  | .firstName =>
    if isSpace c then reading else if c = '\x7d' then separate c stack else beginValue c stack
  | .colon =>
    if isSpace c then reading else if c = ':' then ⟨stack, .value⟩ else stop .broken stack
  | .separator => if isSpace c then reading else separate c stack
  | .word [] meaning => accept meaning stack
  | .word (expected :: left) meaning =>
    if c ≠ expected then stop .broken stack
    else if left = [] then accept meaning stack
    else ⟨stack, .word left meaning⟩
  | .number read stage =>
    match stage.next c with
    | some further => ⟨stack, .number (c :: read) further⟩
    | none =>
      if stage.endsBefore c then afterNumber c (accept (.number (Number.ofText read.reverse)) stack)
      else stop .broken stack
  | .string text =>
    if c = '"' ∧ text.stage = .plain then accept (.string text.close) stack
    else match text.next c with
      | some longer => ⟨stack, .string longer⟩
      | none => stop .broken stack
  | .finished root _ => if isSpace c then reading else ⟨[], .finished root false⟩
  | .stopped _ => reading

/-- Read a character, or a byte with which none begins. Inside a string such a byte makes the string
unsound; elsewhere it goes wrong as any other character does that may not stand there. -/
def stepByte (reading : Reading) : Option Char → Reading
  | some c => reading.step c
  | none =>
    match reading.mode with
    | .string text =>
      if text.stage = .plain then ⟨reading.stack, .string { text with sound := false }⟩
      else stop .broken reading.stack
    | _ => reading.step '\uFFFD'

/-- What is read when the text ends here. -/
def finish (reading : Reading) : Document :=
  match reading.mode with
  | .finished root clean => ⟨root, clean⟩
  | .stopped root => ⟨root, false⟩
  | .number read stage =>
    if stage.isFinal then
      match (accept (.number (Number.ofText read.reverse)) reading.stack).mode with
      | .finished root clean => ⟨root, clean⟩
      | _ => ⟨abandon (.number (Number.ofText read.reverse)) reading.stack, false⟩
    else ⟨abandon .broken reading.stack, false⟩
  | _ => ⟨abandon .broken reading.stack, false⟩

end Reading

/-- Read a text. -/
def Document.ofText (text : String) : Document :=
  (text.toList.foldl Reading.step Reading.start).finish

/-- Read a text in bytes. -/
def Document.ofBytes (text : ByteArray) : Document :=
  (Text.foldCharacters Reading.stepByte Reading.start text).finish

-- A string that is not in UTF-8 cannot be read, but the list around it can.
example : let document := Document.ofBytes ⟨#[0x5B, 0x22, 0xFF, 0x22, 0x5D]⟩
    document.clean = true ∧ document.root.value?.isNone = true := by decide +kernel

/-- The document that a text is, if it is one and nothing else. -/
def Value.ofText? (text : String) : Option Value :=
  let document := Document.ofText text
  if document.clean then document.root.value? else none

example : (Value.ofText? " \x7b \"a\" : [1, -2.5e1, true ] , \"b\\ud83d\\ude00\" : null \x7d "
    ).map Value.text = some "\x7b\"a\":[1,-25.0,true],\"b😀\":null\x7d" := by decide +kernel
example : ["", "[1,]", "01", "1.", "nul", "\"\\ud800\"", "[1] 2", "\x7b\"a\":1,\x7d", "1e400"].map
    (fun text => (Value.ofText? text).isNone) = List.replicate 9 true := by decide +kernel

end HomeVoice.Json
