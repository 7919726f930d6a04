/-!
# Grammars in GBNF notation

A grammar is a list of rules, one on a line, behind a comment line. A rule has alternatives, each
a sequence of quoted texts and names of rules. The text of a grammar is what an inference engine
is given to decode against.
-/

namespace HomeVoice.Gbnf

/-- A part of an alternative. -/
inductive Symbol where
  /-- A text that stands for itself. -/
  | literal (text : List Char)
  /-- Anything that the rule with this name derives. -/
  | rule (name : List Char)
  deriving DecidableEq, Repr

/-- A rule with its alternatives. -/
structure Rule where
  name : List Char
  alternatives : List (List Symbol)
  deriving DecidableEq, Repr

/-- A grammar; derivations start from the rule with the name `root`. -/
structure Grammar where
  comment : List Char
  rules : List Rule
  deriving DecidableEq, Repr

/-- A character inside a quoted text. -/
def escapeChar (c : Char) : List Char := if c = '"' ∨ c = '\\' then ['\\', c] else [c]

/-- A quoted text. -/
def quotedText (text : List Char) : List Char := '"' :: text.flatMap escapeChar ++ ['"']

/-- The text of a part of an alternative. -/
def Symbol.text : Symbol → List Char
  | .literal text => quotedText text
  | .rule name => name

/-- The text of an alternative, a space between neighbours. -/
def sequenceText : List Symbol → List Char
  | [] => []
  | [symbol] => symbol.text
  | symbol :: next :: rest => symbol.text ++ ' ' :: sequenceText (next :: rest)

/-- The text of alternatives, a bar between neighbours. -/
def alternativesText : List (List Symbol) → List Char
  | [] => []
  | [sequence] => sequenceText sequence
  | sequence :: next :: rest =>
    sequenceText sequence ++ ' ' :: '|' :: ' ' :: alternativesText (next :: rest)

/-- A rule on its line. -/
def Rule.line (rule : Rule) : List Char :=
  rule.name ++ ' ' :: ':' :: ':' :: '=' :: ' ' :: alternativesText rule.alternatives ++ ['\n']

/-- The text of a grammar. -/
def Grammar.chars (grammar : Grammar) : List Char :=
  '#' :: ' ' :: grammar.comment ++ '\n' :: grammar.rules.flatMap Rule.line

/-- The text of a grammar. -/
def Grammar.text (grammar : Grammar) : String := String.ofList grammar.chars

example : quotedText "a\"b".toList = "\"a\\\"b\"".toList := by decide

end HomeVoice.Gbnf
