import HomeVoice.Json.Number

/-!
# Values of documents and their text

The text is compact: no blanks, members in the order in which they stand. Only the quotation mark,
the backslash and the control characters are escaped.
-/

namespace HomeVoice.Json

/-- A document. -/
inductive Value where
  | null
  | boolean (value : Bool)
  | number (value : Number)
  | string (text : String)
  | list (items : List Value)
  | object (members : List (String × Value))
  deriving Repr

namespace Value

/-- A natural number as a document. -/
def ofNat (n : Nat) : Value := .number (.integer n)

/-- A binary64 number as a document: infinities and not-a-number cannot be written. -/
def ofFloat (x : Float) : Value := if Decimal.isFinite x then .number (.floating x) else .null

/-- A document for something that may be absent. -/
def ofOption {α : Type} (encode : α → Value) : Option α → Value
  | none => .null
  | some item => encode item

/-- A list of documents. -/
def ofList {α : Type} (encode : α → Value) (items : List α) : Value := .list (items.map encode)

/-- A member that is left out when there is nothing in it. -/
def memberIfSome {α : Type} (name : String) (encode : α → Value) :
    Option α → List (String × Value)
  | none => []
  | some item => [(name, encode item)]

/-- The member with this name. -/
def get? (name : String) : Value → Option Value
  | .object members => members.lookup name
  | _ => none

end Value

/-- The digits of a control character in an escape: four, hexadecimal. -/
def controlDigits (c : Char) : List Char :=
  ['0', '0', Nat.digitChar (c.toNat / 16), Nat.digitChar (c.toNat % 16)]

/-- A character inside a string. -/
def escapeChar (c : Char) : List Char :=
  if c = '"' then ['\\', '"']
  else if c = '\\' then ['\\', '\\']
  else if c = '\x08' then ['\\', 'b']
  else if c = '\x0c' then ['\\', 'f']
  else if c = '\n' then ['\\', 'n']
  else if c = '\r' then ['\\', 'r']
  else if c = '\t' then ['\\', 't']
  else if c.toNat < 0x20 then '\\' :: 'u' :: controlDigits c
  else [c]

/-- A string with its quotation marks. -/
def stringText (text : String) : List Char :=
  '"' :: text.toList.flatMap escapeChar ++ ['"']

mutual

/-- The text of a document. -/
def Value.chars : Value → List Char
  | .null => "null".toList
  | .boolean true => "true".toList
  | .boolean false => "false".toList
  | .number value => value.text.toList
  | .string text => stringText text
  | .list items => '[' :: itemChars items ++ [']']
  | .object members => '{' :: memberChars members ++ ['}']

/-- The texts of items, a comma between neighbours. -/
def itemChars : List Value → List Char
  | [] => []
  | [item] => item.chars
  | item :: next :: rest => item.chars ++ ',' :: itemChars (next :: rest)

/-- The texts of members, a comma between neighbours. -/
def memberChars : List (String × Value) → List Char
  | [] => []
  | [(name, value)] => stringText name ++ ':' :: value.chars
  | (name, value) :: next :: rest =>
    stringText name ++ ':' :: value.chars ++ ',' :: memberChars (next :: rest)

end

/-- A document as a text. -/
def Value.text (value : Value) : String := String.ofList value.chars

example : (Value.object [("a", .list [.null, .ofNat 1]), ("\x01\"", .string "\n")]).text =
    "\x7b\"a\":[null,1],\"\\u0001\\\"\":\"\\n\"\x7d" := by decide +kernel

end HomeVoice.Json
