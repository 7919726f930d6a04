import HomeVoice.Gbnf.Reading
import HomeVoice.Proofs.Text.Words

/-!
# A written grammar is read back

A symbol that was written down is read as one token, whatever it is made of, if the line ends behind
it or goes on with a blank. So the lines of a grammar give back its rules. That needs names that are
names, texts without a line break and rules with at least one alternative.
-/

namespace HomeVoice.Gbnf

/-- A name that can be written down. -/
def IsName (name : List Char) : Prop := name ≠ [] ∧ ∀ c ∈ name, isRuleChar c = true

/-- A symbol that can be written down on one line. -/
def Symbol.Writable : Symbol → Prop
  | .literal text => '\n' ∉ text
  | .rule name => IsName name

/-- A rule that can be written down on one line. -/
structure Rule.Writable (rule : Rule) : Prop where
  name : IsName rule.name
  alternatives : rule.alternatives ≠ []
  symbols : ∀ sequence ∈ rule.alternatives, ∀ symbol ∈ sequence, symbol.Writable

/-- A grammar that can be written down. -/
structure Grammar.Writable (grammar : Grammar) : Prop where
  comment : '\n' ∉ grammar.comment
  rules : ∀ rule ∈ grammar.rules, rule.Writable

/-- What a symbol is read as. -/
def Symbol.token : Symbol → Token
  | .literal text => .literal text
  | .rule name => .name name

/-- What alternatives are read as. -/
def alternativesTokens : List (List Symbol) → List Token
  | [] => []
  | [sequence] => sequence.map Symbol.token
  | sequence :: next :: rest =>
    sequence.map Symbol.token ++ .bar :: alternativesTokens (next :: rest)

namespace Scan

variable {tokens : List Token}

theorem rest_cons {scan after : Scan} {c : Char} (read : scan.next c = some after)
    (text : List Char) : scan.rest (c :: text) = after.rest text := by
  rw [rest, List.foldlM_cons, read]
  rfl

theorem rest_append {scan after : Scan} {front : List Char}
    (read : front.foldlM next scan = some after) (text : List Char) : scan.rest (front ++ text) = after.rest text := by
  rw [rest, List.foldlM_append, read]
  rfl

/-- The line ends here, or a blank follows. -/
def Apart (text : List Char) : Prop := text = [] ∨ ∃ more, text = ' ' :: more

private theorem foldlM_nameChars {name : List Char} (plain : ∀ c ∈ name, isRuleChar c = true)
    (before : List Char) :
    name.foldlM next ⟨tokens, .name before⟩ = some ⟨tokens, .name (before ++ name)⟩ := by
  induction name generalizing before with
  | nil => simp
  | cons c others ih =>
    have ⟨first, plain⟩ := List.forall_mem_cons.mp plain
    have read : next ⟨tokens, .name before⟩ c = some ⟨tokens, .name (before ++ [c])⟩ := by
      simp [next, first]
    rw [List.foldlM_cons, read]
    refine (ih plain _).trans ?_
    simp

/-- No sign begins with a character of names. -/
theorem start_of_isRuleChar {c : Char} (plain : isRuleChar c = true) :
    start tokens c = some ⟨tokens, .name [c]⟩ := by
  have apart {other : Char} (no : isRuleChar other = false) : c ≠ other := by
    rintro rfl
    rw [plain] at no
    cases no
  simp [start, apart, plain, show isRuleChar ' ' = false by decide,
    show isRuleChar '\t' = false by decide, show isRuleChar '\r' = false by decide,
    show isRuleChar '#' = false by decide, show isRuleChar '|' = false by decide,
    show isRuleChar ':' = false by decide, show isRuleChar '"' = false by decide]

private theorem foldlM_name {name : List Char} (good : IsName name) :
    name.foldlM next ⟨tokens, .between⟩ = some ⟨tokens, .name name⟩ := by
  obtain ⟨nonempty, plain⟩ := good
  cases name with
  | nil => exact absurd rfl nonempty
  | cons c others =>
    have ⟨first, plain⟩ := List.forall_mem_cons.mp plain
    rw [List.foldlM_cons, next, start_of_isRuleChar first]
    exact foldlM_nameChars plain [c]

private theorem foldlM_escapeChar (before : List Char) (c : Char) :
    (escapeChar c).foldlM next ⟨tokens, .literal before⟩ =
      some ⟨tokens, .literal (before ++ [c])⟩ := by
  unfold escapeChar
  by_cases special : c = '"' ∨ c = '\\'
  · rw [if_pos special]
    simp [next, special]
  · rw [if_neg special]
    rw [not_or] at special
    simp [next, special]

private theorem foldlM_escaped (text before : List Char) :
    (text.flatMap escapeChar).foldlM next ⟨tokens, .literal before⟩ =
      some ⟨tokens, .literal (before ++ text)⟩ := by
  induction text generalizing before with
  | nil => simp
  | cons c others ih =>
    rw [List.flatMap_cons, List.foldlM_append, foldlM_escapeChar]
    refine (ih _).trans ?_
    simp

private theorem foldlM_quotedText (text : List Char) :
    (quotedText text).foldlM next ⟨tokens, .between⟩ =
      some ⟨tokens ++ [.literal text], .between⟩ := by
  have opened : next ⟨tokens, .between⟩ '"' = some ⟨tokens, .literal []⟩ := by
    simp [next, start]
  unfold quotedText
  rw [List.cons_append, List.foldlM_cons, opened]
  refine (List.foldlM_append ..).trans ?_
  rw [foldlM_escaped]
  simp [next]

/-- A symbol is read as its token. -/
theorem rest_symbol {symbol : Symbol} (good : symbol.Writable) {text : List Char}
    (apart : Apart text) :
    rest ⟨tokens, .between⟩ (symbol.text ++ text) =
      rest ⟨tokens ++ [symbol.token], .between⟩ text := by
  cases symbol with
  | literal content => exact rest_append (foldlM_quotedText content) text
  | rule name =>
    refine (rest_append (foldlM_name good) text).trans ?_
    rcases apart with rfl | ⟨more, rfl⟩
    · rfl
    · exact (rest_cons rfl more).trans (rest_cons rfl more).symm

theorem rest_blank (text : List Char) :
    rest ⟨tokens, .between⟩ (' ' :: text) = rest ⟨tokens, .between⟩ text := rest_cons rfl text

theorem rest_symbol_blank {symbol : Symbol} (good : symbol.Writable) (text : List Char) :
    rest ⟨tokens, .between⟩ (symbol.text ++ ' ' :: text) =
      rest ⟨tokens ++ [symbol.token], .between⟩ text := by
  rw [rest_symbol good (.inr ⟨text, rfl⟩), rest_blank]

theorem rest_sequence {sequence : List Symbol} (good : ∀ symbol ∈ sequence, symbol.Writable)
    {text : List Char} (apart : Apart text) :
    rest ⟨tokens, .between⟩ (sequenceText sequence ++ text) =
      rest ⟨tokens ++ sequence.map Symbol.token, .between⟩ text := by
  induction sequence generalizing tokens with
  | nil => simp [sequenceText]
  | cons symbol others ih =>
    have ⟨first, good⟩ := List.forall_mem_cons.mp good
    cases others with
    | nil => exact rest_symbol first apart
    | cons second more =>
      rw [sequenceText, List.append_assoc, List.cons_append, rest_symbol_blank first, ih good]
      simp

theorem rest_alternatives {alternatives : List (List Symbol)}
    (good : ∀ sequence ∈ alternatives, ∀ symbol ∈ sequence, symbol.Writable) :
    rest ⟨tokens, .between⟩ (alternativesText alternatives) =
      some (tokens ++ alternativesTokens alternatives) := by
  induction alternatives generalizing tokens with
  | nil => simp [alternativesText, alternativesTokens, rest, finish]
  | cons sequence others ih =>
    have ⟨first, good⟩ := List.forall_mem_cons.mp good
    cases others with
    | nil =>
      have read := @rest_sequence tokens sequence first [] (.inl rfl)
      rw [List.append_nil] at read
      exact read
    | cons second more =>
      have bar (tokens : List Token) (text : List Char) :
          rest ⟨tokens, .between⟩ ('|' :: text) = rest ⟨tokens ++ [.bar], .between⟩ text :=
        rest_cons rfl text
      rw [alternativesText, rest_sequence first (.inr ⟨_, rfl⟩), rest_blank, bar, rest_blank,
        ih good, alternativesTokens]
      simp

end Scan

/-- The alternatives are read back from their tokens. -/
theorem alternatives?_alternativesTokens {alternatives : List (List Symbol)}
    (given : alternatives ≠ []) :
    alternatives? (alternativesTokens alternatives) = some alternatives := by
  have symbols (sequence : List Symbol) {tokens : List Token} {others : List (List Symbol)}
      (read : alternatives? tokens = some ([] :: others)) :
      alternatives? (sequence.map Symbol.token ++ tokens) = some (sequence :: others) := by
    induction sequence with
    | nil => exact read
    | cons symbol rest ih =>
      cases symbol <;>
        simp only [List.map_cons, List.cons_append, Symbol.token, alternatives?, ih] <;> rfl
  induction alternatives with
  | nil => exact absurd rfl given
  | cons sequence others ih =>
    cases others with
    | nil =>
      have read := symbols sequence (show alternatives? [] = some [[]] from rfl)
      rwa [List.append_nil] at read
    | cons second more =>
      refine symbols sequence ?_
      rw [alternatives?, ih (List.cons_ne_nil _ _)]
      rfl

/-- A rule without the end of its line. -/
def Rule.body (rule : Rule) : List Char :=
  rule.name ++ ' ' :: ':' :: ':' :: '=' :: ' ' :: alternativesText rule.alternatives

theorem lineRules?_body {rule : Rule} (good : rule.Writable) :
    lineRules? rule.body = some [rule] := by
  have tokens : tokens? rule.body =
      some (.name rule.name :: .defines :: alternativesTokens rule.alternatives) := by
    have defines (tokens : List Token) (text : List Char) :
        Scan.rest ⟨tokens, .between⟩ (':' :: ':' :: '=' :: text) =
          Scan.rest ⟨tokens ++ [.defines], .between⟩ text :=
      (Scan.rest_cons rfl _).trans ((Scan.rest_cons rfl _).trans (Scan.rest_cons rfl _))
    have name : Symbol.Writable (.rule rule.name) := good.name
    refine (Scan.rest_symbol_blank name _).trans ?_
    rw [defines, Scan.rest_blank, Scan.rest_alternatives good.symbols]
    rfl
  unfold lineRules?
  rw [tokens]
  dsimp only
  rw [alternatives?_alternativesTokens good.alternatives]
  rfl

theorem lineRules?_comment (text : List Char) : lineRules? ('#' :: text) = some [] := by
  have skipped : text.foldlM Scan.next ⟨[], .comment⟩ = some ⟨[], .comment⟩ := by
    induction text with
    | nil => rfl
    | cons c others ih => exact ih
  have tokens : tokens? ('#' :: text) = some [] := by
    refine (Scan.rest_cons rfl text).trans ?_
    rw [Scan.rest, skipped]
    rfl
  unfold lineRules?
  rw [tokens]

theorem not_mem_of_isName {name : List Char} (good : IsName name) : '\n' ∉ name := by
  intro member
  exact absurd (good.2 _ member) (by decide)

theorem Symbol.Writable.text {symbol : Symbol} (good : symbol.Writable) : '\n' ∉ symbol.text := by
  cases symbol with
  | rule name => exact not_mem_of_isName good
  | literal text =>
    intro member
    have inside : '\n' ∈ text.flatMap escapeChar := by
      simpa [Symbol.text, quotedText] using member
    obtain ⟨c, known, made⟩ := List.mem_flatMap.mp inside
    unfold escapeChar at made
    split at made
    next special => rcases special with rfl | rfl <;> simp at made
    · exact good (List.mem_singleton.mp made ▸ known)

theorem not_mem_sequenceText {sequence : List Symbol}
    (good : ∀ symbol ∈ sequence, symbol.Writable) : '\n' ∉ sequenceText sequence := by
  induction sequence with
  | nil => exact List.not_mem_nil
  | cons symbol others ih =>
    have ⟨first, good⟩ := List.forall_mem_cons.mp good
    cases others with
    | nil => exact first.text
    | cons second more =>
      rw [sequenceText]
      simp [first.text, ih good]

theorem not_mem_alternativesText {alternatives : List (List Symbol)}
    (good : ∀ sequence ∈ alternatives, ∀ symbol ∈ sequence, symbol.Writable) :
    '\n' ∉ alternativesText alternatives := by
  induction alternatives with
  | nil => exact List.not_mem_nil
  | cons sequence others ih =>
    have ⟨first, good⟩ := List.forall_mem_cons.mp good
    cases others with
    | nil => exact not_mem_sequenceText first
    | cons second more =>
      rw [alternativesText]
      simp [not_mem_sequenceText first, ih good]

/-- A text without a line break is one line. -/
theorem isPiece_line {text : List Char} (nonempty : text ≠ []) (whole : '\n' ∉ text) :
    Text.IsPiece (· == '\n') text := by
  refine ⟨nonempty, ?_⟩
  intro c member
  exact beq_eq_false_iff_ne.mpr fun same => whole (same ▸ member)

theorem Rule.Writable.isPiece {rule : Rule} (good : rule.Writable) :
    Text.IsPiece (· == '\n') rule.body := by
  refine isPiece_line ?_ ?_
  · simp [body]
  · simp [body, not_mem_of_isName good.name, not_mem_alternativesText good.symbols]

theorem pieces_lines {rules : List Rule} (good : ∀ rule ∈ rules, rule.Writable) :
    Text.pieces (· == '\n') (rules.flatMap Rule.line) = rules.map Rule.body := by
  induction rules with
  | nil => rfl
  | cons rule others ih =>
    have ⟨first, good⟩ := List.forall_mem_cons.mp good
    have line : rule.line ++ others.flatMap Rule.line =
        rule.body ++ '\n' :: others.flatMap Rule.line := by
      simp [Rule.line, Rule.body]
    rw [List.flatMap_cons, line, Text.pieces_append first.isPiece (by decide), ih good,
      List.map_cons]

theorem mapM_lineRules? {rules : List Rule} (good : ∀ rule ∈ rules, rule.Writable) :
    (rules.map Rule.body).mapM lineRules? = some (rules.map ([·])) := by
  induction rules with
  | nil => rfl
  | cons rule others ih =>
    have ⟨first, good⟩ := List.forall_mem_cons.mp good
    rw [List.map_cons, List.mapM_cons, lineRules?_body first, ih good]
    rfl

/-- What was written down is read back, but for the comment. -/
theorem Grammar.ofText?_chars {grammar : Grammar} (good : grammar.Writable) :
    ofText? grammar.chars = some ⟨[], grammar.rules⟩ := by
  have comment : Text.IsPiece (· == '\n') ('#' :: ' ' :: grammar.comment) :=
    isPiece_line (List.cons_ne_nil _ _) (by simp [good.comment])
  have pieces : Text.pieces (· == '\n') grammar.chars =
      ('#' :: ' ' :: grammar.comment) :: grammar.rules.map Rule.body := by
    rw [chars, Text.pieces_append comment (by decide), pieces_lines good.rules]
  unfold ofText?
  rw [pieces, List.mapM_cons, lineRules?_comment, mapM_lineRules? good.rules]
  exact congrArg (fun rules => some (Grammar.mk [] rules)) (List.flatMap_singleton' grammar.rules)

end HomeVoice.Gbnf
