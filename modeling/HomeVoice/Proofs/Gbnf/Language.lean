import Mathlib.Data.List.Nodup
import HomeVoice.Gbnf.Language

/-!
# What symbols derive

A derivation taken apart: a literal derives itself and nothing else, a sequence derives what its
parts derive in their order, and the only rule of its name derives what its alternatives derive.
-/

namespace HomeVoice.Gbnf

variable {grammar : Grammar} {text : List Char}

theorem derives_literal_iff {literal : List Char} :
    Symbol.Derives grammar (.literal literal) text ↔ text = literal := by
  constructor
  · intro derived
    cases derived
    rfl
  · rintro rfl
    exact .literal text

theorem derives_rule_iff {name : List Char} :
    Symbol.Derives grammar (.rule name) text ↔
      ∃ rule ∈ grammar.rules, rule.name = name ∧
        ∃ sequence ∈ rule.alternatives, SequenceDerives grammar sequence text := by
  constructor
  · intro derived
    cases derived with
    | @rule rule sequence _ known chosen derived =>
      exact ⟨rule, known, rfl, sequence, chosen, derived⟩
  · rintro ⟨rule, known, rfl, sequence, chosen, derived⟩
    exact .rule known chosen derived

theorem sequenceDerives_nil_iff : SequenceDerives grammar [] text ↔ text = [] := by
  constructor
  · intro derived
    cases derived
    rfl
  · rintro rfl
    exact .nil

theorem sequenceDerives_cons_iff {symbol : Symbol} {rest : List Symbol} :
    SequenceDerives grammar (symbol :: rest) text ↔
      ∃ first others, Symbol.Derives grammar symbol first ∧ SequenceDerives grammar rest others ∧
        text = first ++ others := by
  constructor
  · intro derived
    cases derived with
    | @cons _ _ first others head tail => exact ⟨first, others, head, tail, rfl⟩
  · rintro ⟨first, others, head, tail, rfl⟩
    exact .cons head tail

theorem sequenceDerives_singleton_iff {symbol : Symbol} :
    SequenceDerives grammar [symbol] text ↔ Symbol.Derives grammar symbol text := by
  simp [sequenceDerives_cons_iff, sequenceDerives_nil_iff]

mutual

/-- Only the rules of a grammar derive, its comment does not. -/
theorem Symbol.Derives.of_rules {other : Grammar} (same : grammar.rules = other.rules) :
    ∀ {symbol : Symbol} {text : List Char}, Symbol.Derives grammar symbol text →
      Symbol.Derives other symbol text
  | _, _, .literal text => .literal text
  | _, _, .rule known chosen derived => .rule (same ▸ known) chosen (derived.of_rules same)

theorem SequenceDerives.of_rules {other : Grammar} (same : grammar.rules = other.rules) :
    ∀ {sequence : List Symbol} {text : List Char}, SequenceDerives grammar sequence text →
      SequenceDerives other sequence text
  | _, _, .nil => .nil
  | _, _, .cons head tail => .cons (head.of_rules same) (tail.of_rules same)

end

theorem Grammar.language_iff_of_rules {other : Grammar} (same : grammar.rules = other.rules) :
    grammar.Language text ↔ other.Language text :=
  ⟨fun derived => derived.of_rules same, fun derived => derived.of_rules same.symm⟩

/-- A rule that has its name for itself derives what its alternatives derive. -/
theorem derives_rule_of_nodup (unique : (grammar.rules.map (·.name)).Nodup) {rule : Rule}
    (known : rule ∈ grammar.rules) :
    Symbol.Derives grammar (.rule rule.name) text ↔
      ∃ sequence ∈ rule.alternatives, SequenceDerives grammar sequence text := by
  rw [derives_rule_iff]
  constructor
  · rintro ⟨other, listed, same, derived⟩
    exact List.inj_on_of_nodup_map unique listed known same ▸ derived
  · rintro derived
    exact ⟨rule, known, rfl, derived⟩

end HomeVoice.Gbnf
