/-!
# Steps of reading a text

A step takes something off the front of a text or fails; a step that fails has taken nothing.
`many` repeats a step as long as it takes something, so it ends.
-/

namespace HomeVoice.Toml

/-- A step that reads a value off the front of a text. -/
abbrev Scan := StateT (List Char) Option

namespace Scan

/-- Run a step on a text. -/
def apply {α : Type} (step : Scan α) (text : List Char) : Option (α × List Char) := step text

/-- The next character, which stays. -/
def peek : Scan (Option Char) := do return (← get).head?

/-- A character of a class. -/
def satisfy (accept : Char → Bool) : Scan Char := do
  match ← get with
  | c :: rest => if accept c then do set rest; return c else failure
  | [] => failure

def char (c : Char) : Scan Char := satisfy (· == c)

/-- A given text. -/
def word (expected : List Char) : Scan Unit := do
  let text ← get
  if expected.isPrefixOf text then set (text.drop expected.length) else failure

/-- The characters of a class, as many as there are. -/
def takeWhile (accept : Char → Bool) : Scan (List Char) := do
  let text ← get
  set (text.dropWhile accept)
  return text.takeWhile accept

/-- The characters of a class, at least one. -/
def takeWhile1 (accept : Char → Bool) : Scan (List Char) := do
  let taken ← takeWhile accept
  if taken.isEmpty then failure else return taken

/-- Repeat a step as long as it takes something. -/
def repeated {α : Type} (step : Scan α) (text : List Char) : List α × List Char :=
  match step text with
  | none => ([], text)
  | some (first, rest) =>
    if rest.length < text.length then
      let (others, rest) := repeated step rest
      (first :: others, rest)
    else ([], text)
termination_by text.length

/-- Repeat a step as long as it takes something. -/
def many {α : Type} (step : Scan α) : Scan (List α) := fun text => some (repeated step text)

/-- What a step reads, if it does not fail. -/
def maybe {α : Type} (step : Scan α) : Scan (Option α) := (some <$> step) <|> pure none

/-- At least one item, a separator between neighbours. -/
def separated1 {α β : Type} (item : Scan α) (separator : Scan β) : Scan (List α) := do
  let first ← item
  let others ← many (separator *> item)
  return first :: others

/-- Any number of items, a separator between neighbours. -/
def separated {α β : Type} (item : Scan α) (separator : Scan β) : Scan (List α) :=
  separated1 item separator <|> pure []

/-- The end of the text. -/
def atEnd : Scan Unit := do if (← get).isEmpty then return () else failure

/-- The text that a step takes. -/
def taken {α : Type} (step : Scan α) : Scan (List Char) := do
  let before ← get
  let _ ← step
  let after ← get
  return before.take (before.length - after.length)

/-- Look whether a step would succeed here, and take nothing. -/
def looksAt {α : Type} (step : Scan α) : Scan Bool := do return (step (← get)).isSome

end Scan

end HomeVoice.Toml
