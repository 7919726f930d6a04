import HomeVoice.Action
import HomeVoice.Gbnf.Basic
import HomeVoice.Name
import HomeVoice.Proofs.Json.Number

/-!
# Texts of names, tokens and digits

Names, the tokens of actions and the digits of numbers are made of the characters that names may
have. None of these characters is escaped in a document or a grammar, and none ends a quoted text or
a line.
-/

namespace HomeVoice

open Json (escapeChar stringText)

theorem isNameChar_iff {c : Char} :
    isNameChar c = true ↔ Text.isAlphanumeric c = true ∨ c = ' ' ∨ c = '-' ∨ c = '_' ∨ c = '\'' := by
  simp only [isNameChar, Bool.or_eq_true, beq_iff_eq, or_assoc]

/-- No name has what ends a line, ends a quoted text or escapes. -/
theorem isNameChar_eq_false {c : Char} (refused : c ∈ ['\n', '"', '\\']) : isNameChar c = false := by
  have outside : (['\n', '"', '\\'].all fun c => !isNameChar c) = true := by decide +kernel
  simpa using List.all_eq_true.mp outside c refused

/-- All characters are such as names may have. -/
def IsPlain (text : List Char) : Prop := ∀ c ∈ text, isNameChar c = true

theorem isPlain_text {kind : NameKind} (name : Name kind) : IsPlain name.text.toList :=
  List.all_eq_true.mp name.allowed

theorem isPlain_token (action : Action) : IsPlain action.token.toList := by
  refine List.all_eq_true.mp ?_
  cases action <;> decide +kernel

theorem isDigit_of_mem_toString {n : Nat} {c : Char} (member : c ∈ (toString n).toList) :
    c.isDigit = true := by
  rw [Nat.toString_eq_repr, Nat.toList_repr] at member
  exact Decimal.isDigit_of_mem_digitsOf member

theorem isPlain_toString (n : Nat) : IsPlain (toString n).toList := by
  intro c member
  have digit : Text.isAlphanumeric c = true := by
    obtain ⟨above, below⟩ := Bool.and_eq_true_iff.mp (isDigit_of_mem_toString member)
    refine Text.inTable_iff.mpr ⟨(0x30, 0x39), List.mem_cons_self, ?_, ?_⟩
    · exact of_decide_eq_true above
    · exact of_decide_eq_true below
  simp [isNameChar, digit]

namespace IsPlain

variable {text : List Char} (plain : IsPlain text)

include plain

theorem ne_of_refused {c d : Char} (member : c ∈ text) (refused : isNameChar d = false) :
    c ≠ d := by
  rintro rfl
  rw [plain c member] at refused
  cases refused

theorem newline_not_mem : '\n' ∉ text := fun member =>
  plain.ne_of_refused member (isNameChar_eq_false (by simp)) rfl

theorem ne_quote {c : Char} (member : c ∈ text) : c ≠ '"' :=
  plain.ne_of_refused member (isNameChar_eq_false (by simp))

theorem ne_backslash {c : Char} (member : c ∈ text) : c ≠ '\\' :=
  plain.ne_of_refused member (isNameChar_eq_false (by simp))

theorem escapeChar {c : Char} (member : c ∈ text) : escapeChar c = [c] := by
  have visible : 0x20 ≤ c.toNat := by
    rcases isNameChar_iff.mp (plain c member) with alphanumeric | rfl | rfl | rfl | rfl
    · have := Text.le_toNat_of_isAlphanumeric alphanumeric
      omega
    all_goals decide
  have apart {d : Char} (control : d.toNat < 0x20) : c ≠ d := by
    rintro rfl
    omega
  unfold Json.escapeChar
  rw [if_neg (plain.ne_quote member), if_neg (plain.ne_backslash member),
    if_neg (apart (by decide)), if_neg (apart (by decide)), if_neg (apart (by decide)),
    if_neg (apart (by decide)), if_neg (apart (by decide)), if_neg (Nat.not_lt.mpr visible)]

/-- Nothing is escaped in a document. -/
theorem flatMap_escapeChar : text.flatMap Json.escapeChar = text := by
  rw [List.flatMap_def, List.map_congr_left fun c => plain.escapeChar, ← List.flatMap_def]
  exact List.flatMap_singleton' _

/-- Nothing is escaped in a grammar. -/
theorem flatMap_gbnfEscapeChar : text.flatMap Gbnf.escapeChar = text := by
  have kept {c : Char} (member : c ∈ text) : Gbnf.escapeChar c = [c] :=
    if_neg (not_or.mpr ⟨plain.ne_quote member, plain.ne_backslash member⟩)
  rw [List.flatMap_def, List.map_congr_left fun c => kept, ← List.flatMap_def]
  exact List.flatMap_singleton' _

end IsPlain

/-- In a document a plain text stands between quotes as it is. -/
theorem stringText_of_isPlain {text : String} (plain : IsPlain text.toList) :
    stringText text = '"' :: (text.toList ++ ['"']) := by
  unfold stringText
  rw [plain.flatMap_escapeChar]
  rfl

end HomeVoice
