import HomeVoice.Error
import HomeVoice.Proofs.Text.Lower
import HomeVoice.Proofs.Text.Pieces

/-!
# The normal form of a name is final

A text that is put together from words falls apart into the same ones. Lower case changes the letters
of words but makes no blank and no empty word. So the normal form of a normal form is the same text,
and a name is read back from its own text.
-/

namespace HomeVoice.Text

/-- The characters of a piece are changed by lower case, but it stays a piece. -/
private theorem lowerFrom_piece {piece : List Char} (good : IsPiece isBlank piece)
    (before rest : List Char) :
    ∃ lowered, IsPiece isBlank lowered ∧
      lowerFrom before (piece ++ rest) = lowered ++ lowerFrom (piece.reverse ++ before) rest := by
  obtain ⟨nonempty, plain⟩ := good
  induction piece generalizing before with
  | nil => exact absurd rfl nonempty
  | cons c others ih =>
    have ⟨unblank, plain⟩ := List.forall_mem_cons.mp plain
    have first : ∃ forms, IsPiece isBlank forms ∧
        lowerFrom before (c :: others ++ rest) = forms ++ lowerFrom (c :: before) (others ++ rest) := by
      refine ⟨_, ?_, rfl⟩
      split
      · refine ⟨List.cons_ne_nil _ _, ?_⟩
        intro d member
        rw [List.mem_singleton.mp member]
        split <;> decide
      · exact ⟨lowerChar_ne_nil c, fun d member => isBlank_of_mem_lowerChar unblank member⟩
    obtain ⟨forms, front, lowered⟩ := first
    cases others with
    | nil => exact ⟨forms, front, lowered⟩
    | cons d more =>
      obtain ⟨behind, back, continued⟩ := ih (c :: before) (by simp) plain
      refine ⟨forms ++ behind, ⟨by simp [front.1], ?_⟩, ?_⟩
      · intro e member
        exact (List.mem_append.mp member).elim (front.2 e) (back.2 e)
      · rw [lowered, continued, List.append_assoc]
        simp

/-- Lower case makes as many words of words. -/
theorem lowerFrom_joinPieces {parts : List (List Char)}
    (good : ∀ piece ∈ parts, IsPiece isBlank piece) (before : List Char) :
    ∃ lowered, lowered.length = parts.length ∧ (∀ piece ∈ lowered, IsPiece isBlank piece) ∧
      lowerFrom before (joinPieces ' ' parts) = joinPieces ' ' lowered := by
  induction parts generalizing before with
  | nil => exact ⟨[], rfl, nofun, rfl⟩
  | cons piece rest ih =>
    have ⟨first, others⟩ := List.forall_mem_cons.mp good
    cases rest with
    | nil =>
      obtain ⟨forms, front, lowered⟩ := lowerFrom_piece first before []
      refine ⟨[forms], rfl, by simpa using front, ?_⟩
      simpa [joinPieces, lowerFrom] using lowered
    | cons next more =>
      obtain ⟨forms, front, lowered⟩ :=
        lowerFrom_piece first before (' ' :: joinPieces ' ' (next :: more))
      obtain ⟨behind, many, back, continued⟩ := ih others (' ' :: (piece.reverse ++ before))
      have space : lowerChar ' ' = [' '] := by decide +kernel
      refine ⟨forms :: behind, by simp [many], List.forall_mem_cons.mpr ⟨front, back⟩, ?_⟩
      rw [joinPieces, lowered, lowerFrom, if_neg (by decide), space, continued]
      cases behind with
      | nil => simp at many
      | cons => rfl

end HomeVoice.Text

namespace HomeVoice

open Text in
/-- A name in its normal form has itself as its normal form. -/
theorem normalizeName_normalizeName (raw : String) :
    normalizeName (normalizeName raw) = normalizeName raw := by
  obtain ⟨lowered, _, good, same⟩ := lowerFrom_joinPieces
    (fun piece member => isPiece_of_mem_pieces member : ∀ piece ∈ words raw.toList, _) []
  have again : joinPieces ' ' (words (lower (joinPieces ' ' (words raw.toList)))) =
      lower (joinPieces ' ' (words raw.toList)) := by
    rw [lower, same, words, pieces_joinPieces good (by decide)]
  unfold normalizeName
  rw [String.toList_ofList, again, lower_lower]

/-- A name is what its own text writes. -/
theorem Name.ofText?_text {kind : NameKind} (name : Name kind) :
    Name.ofText? name.text = some name := by
  have same : normalizeName name.text = name.text := by
    obtain ⟨raw, normal⟩ := name.normal
    rw [← normal, normalizeName_normalizeName]
  have nonempty : normalizeName name.text ≠ "" := by
    rw [same]
    exact name.nonempty
  have allowed : (normalizeName name.text).toList.all isNameChar = true := by
    rw [same]
    exact name.allowed
  unfold Name.ofText?
  rw [dif_neg nonempty, dif_pos allowed]
  exact congrArg some (Name.eq_of_text same)

theorem Name.ofText_text {kind : NameKind} (name : Name kind) : Name.ofText name.text = .ok name := by
  unfold Name.ofText
  rw [Name.ofText?_text]

/-- An identifier is what its own text is. -/
theorem DeviceId.ofText?_text (id : DeviceId) : DeviceId.ofText? id.text = some id := by
  unfold DeviceId.ofText?
  rw [dif_neg id.notBlank]

end HomeVoice
