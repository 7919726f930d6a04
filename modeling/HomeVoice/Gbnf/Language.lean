import HomeVoice.Gbnf.Basic

/-!
# The language of a grammar

A literal derives itself, a rule derives what any of its alternatives derives, and a sequence
derives the concatenation of what its parts derive.
-/

namespace HomeVoice.Gbnf

mutual

/-- The symbol derives the text. -/
inductive Symbol.Derives (grammar : Grammar) : Symbol → List Char → Prop where
  | literal (text : List Char) : Symbol.Derives grammar (.literal text) text
  | rule {rule : Rule} {sequence : List Symbol} {text : List Char} (known : rule ∈ grammar.rules)
      (chosen : sequence ∈ rule.alternatives) (derived : SequenceDerives grammar sequence text) :
      Symbol.Derives grammar (.rule rule.name) text

/-- The sequence derives the text. -/
inductive SequenceDerives (grammar : Grammar) : List Symbol → List Char → Prop where
  | nil : SequenceDerives grammar [] []
  | cons {symbol : Symbol} {rest : List Symbol} {first others : List Char}
      (head : Symbol.Derives grammar symbol first)
      (tail : SequenceDerives grammar rest others) :
      SequenceDerives grammar (symbol :: rest) (first ++ others)

end

/-- The texts that a grammar derives from its root. -/
def Grammar.Language (grammar : Grammar) (text : List Char) : Prop :=
  Symbol.Derives grammar (.rule "root".toList) text

/-- Every rule that is referred to is there. -/
def Grammar.Closed (grammar : Grammar) : Prop :=
  ∀ rule ∈ grammar.rules, ∀ sequence ∈ rule.alternatives, ∀ name, .rule name ∈ sequence →
    name ∈ grammar.rules.map (·.name)

end HomeVoice.Gbnf
