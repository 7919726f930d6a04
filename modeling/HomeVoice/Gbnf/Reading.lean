import HomeVoice.Gbnf.Basic
import HomeVoice.Text.Pieces

/-!
# Reading a grammar

A grammar is read line by line. A line is cut into names, quoted texts and the signs `::=` and `|`;
blanks only separate, and `#` makes the rest of a line a comment. A line without any of these says
nothing, every other line is one rule.
-/

namespace HomeVoice.Gbnf

/-- What a line is made of. -/
inductive Token where
  | name (name : List Char)
  | literal (text : List Char)
  | defines
  | bar
  deriving DecidableEq, Repr

/-- The characters of the names of rules. -/
def isRuleChar (c : Char) : Bool := c.isAlphanum || c == '-'

/-- What a reader of a line is in the middle of. -/
inductive Scanning where
  | between
  | name (read : List Char)
  | literal (read : List Char)
  /-- Behind a backslash in a quoted text. -/
  | escape (read : List Char)
  | colon
  | colons
  | comment
  deriving DecidableEq, Repr

/-- How far a line is read. -/
structure Scan where
  tokens : List Token
  scanning : Scanning
  deriving DecidableEq, Repr

namespace Scan

/-- A character that does not go on with a token that was begun. -/
def start (tokens : List Token) (c : Char) : Option Scan :=
  if c = ' ' ∨ c = '\t' ∨ c = '\r' then some ⟨tokens, .between⟩
  else if c = '#' then some ⟨tokens, .comment⟩
  else if c = '|' then some ⟨tokens ++ [.bar], .between⟩
  else if c = ':' then some ⟨tokens, .colon⟩
  else if c = '"' then some ⟨tokens, .literal []⟩
  else if isRuleChar c then some ⟨tokens, .name [c]⟩
  else none

/-- One more character. -/
def next (scan : Scan) (c : Char) : Option Scan :=
  match scan.scanning with
  | .between => start scan.tokens c
  | .name read =>
    if isRuleChar c then some { scan with scanning := .name (read ++ [c]) }
    else start (scan.tokens ++ [.name read]) c
  | .literal read =>
    if c = '"' then some ⟨scan.tokens ++ [.literal read], .between⟩
    else if c = '\\' then some { scan with scanning := .escape read }
    else some { scan with scanning := .literal (read ++ [c]) }
  | .escape read =>
    if c = '"' ∨ c = '\\' then some { scan with scanning := .literal (read ++ [c]) } else none
  | .colon => if c = ':' then some { scan with scanning := .colons } else none
  | .colons => if c = '=' then some ⟨scan.tokens ++ [.defines], .between⟩ else none
  | .comment => some scan

/-- The tokens at the end of a line, where no quoted text may be open. -/
def finish (scan : Scan) : Option (List Token) :=
  match scan.scanning with
  | .between | .comment => some scan.tokens
  | .name read => some (scan.tokens ++ [.name read])
  | _ => none

/-- The tokens of a line of which this is the rest. -/
def rest (scan : Scan) (text : List Char) : Option (List Token) :=
  (text.foldlM next scan).bind finish

end Scan

/-- The tokens of a line. -/
def tokens? (line : List Char) : Option (List Token) := Scan.rest ⟨[], .between⟩ line

/-- A symbol in front of the first alternative. -/
def withSymbol (symbol : Symbol) : List (List Symbol) → List (List Symbol)
  | [] => [[symbol]]
  | first :: others => (symbol :: first) :: others

/-- The alternatives behind the sign of a definition. -/
def alternatives? : List Token → Option (List (List Symbol))
  | [] => some [[]]
  | .bar :: rest => (alternatives? rest).map ([] :: ·)
  | .name name :: rest => (alternatives? rest).map (withSymbol (.rule name))
  | .literal text :: rest => (alternatives? rest).map (withSymbol (.literal text))
  | .defines :: _ => none

/-- The rule on a line, if there is one. -/
def lineRules? (line : List Char) : Option (List Rule) :=
  match tokens? line with
  | some [] => some []
  | some (.name name :: .defines :: rest) => (alternatives? rest).map ([⟨name, ·⟩])
  | _ => none

/-- The grammar that a text is read as; comments are not kept. -/
def Grammar.ofText? (text : List Char) : Option Grammar :=
  ((Text.pieces (· == '\n') text).mapM lineRules?).map fun rules => ⟨[], rules.flatten⟩

example : Grammar.ofText? "# two\nroot ::= \"a\\\"\" b|\"c\"\nb ::= \"|\" # end\n".toList =
    some ⟨[], [⟨"root".toList, [[.literal "a\"".toList, .rule "b".toList], [.literal "c".toList]]⟩,
      ⟨"b".toList, [[.literal "|".toList]]⟩]⟩ := by decide +kernel
example : ["root", "root ::= \"a", "root : \"a\"", "root ::= [a-z]"].map
    (fun text => Grammar.ofText? text.toList) = List.replicate 4 none := by decide +kernel

end HomeVoice.Gbnf
