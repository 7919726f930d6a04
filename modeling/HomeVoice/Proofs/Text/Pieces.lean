import Mathlib.Data.List.Chain
import HomeVoice.Text.Pieces

/-!
# Pieces put together

Pieces are not empty and have no separator in them, so a text that is put together from them with
one separator between neighbours falls apart into the same ones. Such a text is told by its
separators: there is none at either end and no two are neighbours.
-/

namespace HomeVoice.Text

/-- A piece between separators: not empty, and without a separator in it. -/
def IsPiece (isSeparator : Char → Bool) (piece : List Char) : Prop :=
  piece ≠ [] ∧ ∀ c ∈ piece, isSeparator c = false

variable {isSeparator : Char → Bool}

private theorem cutBefore_separator {c : Char} (separates : isSeparator c = true)
    (rest : List Char × List (List Char)) :
    cutBefore isSeparator c rest = ([], if rest.1 = [] then rest.2 else rest.1 :: rest.2) :=
  if_pos separates

private theorem cutBefore_ordinary {c : Char} (ordinary : isSeparator c = false)
    (rest : List Char × List (List Char)) :
    cutBefore isSeparator c rest = (c :: rest.1, rest.2) :=
  if_neg (by simp [ordinary])

/-- Of what is cut, the front is without separators and the rest are pieces. -/
private theorem isPiece_of_cut (text : List Char) :
    (∀ c ∈ (text.foldr (cutBefore isSeparator) ([], [])).1, isSeparator c = false) ∧
      ∀ piece ∈ (text.foldr (cutBefore isSeparator) ([], [])).2, IsPiece isSeparator piece := by
  induction text with
  | nil => exact ⟨nofun, nofun⟩
  | cons c rest ih =>
    obtain ⟨front, others⟩ := ih
    rw [List.foldr_cons]
    cases kind : isSeparator c with
    | true =>
      rw [cutBefore_separator kind]
      refine ⟨nofun, ?_⟩
      dsimp only
      split
      · exact others
      next nonempty => exact List.forall_mem_cons.mpr ⟨⟨nonempty, front⟩, others⟩
    | false =>
      rw [cutBefore_ordinary kind]
      exact ⟨List.forall_mem_cons.mpr ⟨kind, front⟩, others⟩

theorem isPiece_of_mem_pieces {text piece : List Char}
    (member : piece ∈ pieces isSeparator text) : IsPiece isSeparator piece := by
  have ⟨front, others⟩ := @isPiece_of_cut isSeparator text
  unfold pieces at member
  dsimp only at member
  split at member
  · exact others piece member
  next nonempty => exact List.forall_mem_cons.mpr ⟨⟨nonempty, front⟩, others⟩ piece member

private theorem cut_append {front : List Char} (plain : ∀ c ∈ front, isSeparator c = false)
    (rest : List Char × List (List Char)) :
    front.foldr (cutBefore isSeparator) rest = (front ++ rest.1, rest.2) := by
  induction front with
  | nil => rfl
  | cons c others ih =>
    rw [List.foldr_cons, ih fun d member => plain d (List.mem_cons_of_mem _ member),
      cutBefore_ordinary (plain c List.mem_cons_self)]
    rfl

theorem pieces_of_isPiece {piece : List Char} (good : IsPiece isSeparator piece) :
    pieces isSeparator piece = [piece] := by
  unfold pieces
  rw [cut_append good.2]
  simp [good.1]

/-- A text falls apart at a separator behind its first piece. -/
theorem pieces_append {piece rest : List Char} {c : Char} (good : IsPiece isSeparator piece)
    (separator : isSeparator c = true) :
    pieces isSeparator (piece ++ c :: rest) = piece :: pieces isSeparator rest := by
  have behind : (c :: rest).foldr (cutBefore isSeparator) ([], []) =
      ([], pieces isSeparator rest) := by
    rw [List.foldr_cons, cutBefore_separator separator]
    rfl
  rw [pieces, List.foldr_append, behind, cut_append good.2]
  simp [good.1]

theorem pieces_joinPieces {parts : List (List Char)} {separator : Char}
    (good : ∀ piece ∈ parts, IsPiece isSeparator piece) (separates : isSeparator separator = true) :
    pieces isSeparator (joinPieces separator parts) = parts := by
  induction parts with
  | nil => rfl
  | cons piece rest ih =>
    have ⟨first, others⟩ := List.forall_mem_cons.mp good
    cases rest with
    | nil => exact pieces_of_isPiece first
    | cons next more => rw [joinPieces, pieces_append first separates, ih others]

/-- The front of what is cut reaches to the first separator. -/
private theorem front_of_cut (text : List Char) :
    (text.foldr (cutBefore isSeparator) ([], [])).1 = text.takeWhile fun c => !isSeparator c := by
  induction text with
  | nil => rfl
  | cons c rest ih =>
    rw [List.foldr_cons, List.takeWhile_cons, ← ih]
    cases kind : isSeparator c with
    | true =>
      rw [cutBefore_separator kind]
      rfl
    | false =>
      rw [cutBefore_ordinary kind]
      rfl

/-- Cutting drops the separators and nothing else. -/
theorem flatten_pieces (text : List Char) :
    (pieces isSeparator text).flatten = text.filter fun c => !isSeparator c := by
  have complete (cut : List Char × List (List Char)) :
      (if cut.1 = [] then cut.2 else cut.1 :: cut.2).flatten = cut.1 ++ cut.2.flatten := by
    by_cases empty : cut.1 = []
    · rw [if_pos empty, empty, List.nil_append]
    · rw [if_neg empty, List.flatten_cons]
  unfold pieces
  rw [complete]
  induction text with
  | nil => rfl
  | cons c rest ih =>
    rw [List.foldr_cons, List.filter_cons, ← ih]
    cases kind : isSeparator c with
    | true =>
      rw [cutBefore_separator kind, complete]
      rfl
    | false =>
      rw [cutBefore_ordinary kind]
      rfl

theorem joinPieces_cons (separator : Char) (piece : List Char) (rest : List (List Char)) :
    joinPieces separator (piece :: rest) = piece ++ rest.flatMap (separator :: ·) := by
  induction rest generalizing piece with
  | nil => simp [joinPieces]
  | cons next more ih => rw [joinPieces, ih, List.flatMap_cons, List.cons_append]

theorem mem_of_mem_joinPieces {parts : List (List Char)} {separator c : Char}
    (member : c ∈ joinPieces separator parts) : c = separator ∨ ∃ piece ∈ parts, c ∈ piece := by
  cases parts with
  | nil => cases member
  | cons piece rest =>
    rw [joinPieces_cons] at member
    rcases List.mem_append.mp member with front | behind
    · exact .inr ⟨piece, List.mem_cons_self, front⟩
    · obtain ⟨other, known, inside⟩ := List.mem_flatMap.mp behind
      rcases List.mem_cons.mp inside with separator | inside
      · exact .inl separator
      · exact .inr ⟨other, List.mem_cons_of_mem _ known, inside⟩

section Joined

variable {parts : List (List Char)} {separator c : Char}

theorem joinPieces_ne_nil (good : ∀ piece ∈ parts, IsPiece isSeparator piece) (given : parts ≠ []) :
    joinPieces separator parts ≠ [] := by
  cases parts with
  | nil => exact absurd rfl given
  | cons piece rest =>
    rw [joinPieces_cons]
    simp [(good piece List.mem_cons_self).1]

/-- Pieces that are joined start with no separator. -/
theorem isSeparator_head?_joinPieces (good : ∀ piece ∈ parts, IsPiece isSeparator piece)
    (first : c ∈ (joinPieces separator parts).head?) : isSeparator c = false := by
  cases parts with
  | nil => cases first
  | cons piece rest =>
    have ⟨nonempty, plain⟩ := good piece List.mem_cons_self
    rw [joinPieces_cons, List.head?_append_of_ne_nil _ nonempty] at first
    exact plain c (List.mem_of_mem_head? first)

/-- Pieces that are joined end with no separator. -/
theorem isSeparator_getLast?_joinPieces (good : ∀ piece ∈ parts, IsPiece isSeparator piece)
    (last : c ∈ (joinPieces separator parts).getLast?) : isSeparator c = false := by
  induction parts with
  | nil => cases last
  | cons piece rest ih =>
    have ⟨⟨_, plain⟩, others⟩ := List.forall_mem_cons.mp good
    cases rest with
    | nil => exact plain c (List.mem_of_getLast? last)
    | cons next more =>
      have nonempty : joinPieces separator (next :: more) ≠ [] :=
        joinPieces_ne_nil others (List.cons_ne_nil _ _)
      have within : joinPieces separator (piece :: next :: more) =
          (piece ++ [separator]) ++ joinPieces separator (next :: more) := by
        simp [joinPieces]
      rw [within, List.getLast?_append_of_ne_nil _ nonempty] at last
      exact ih others last

/-- Of two neighbours in pieces that are joined one is no separator. -/
theorem isChain_joinPieces (good : ∀ piece ∈ parts, IsPiece isSeparator piece) :
    (joinPieces separator parts).IsChain
      fun c d => isSeparator c = true → isSeparator d = false := by
  have inside {piece : List Char} (whole : IsPiece isSeparator piece) :
      piece.IsChain fun c d => isSeparator c = true → isSeparator d = false :=
    List.Pairwise.isChain
      (List.pairwise_of_forall_mem_list fun _ _ d member _ => whole.2 d member)
  induction parts with
  | nil => exact .nil
  | cons piece rest ih =>
    have ⟨whole, others⟩ := List.forall_mem_cons.mp good
    cases rest with
    | nil => exact inside whole
    | cons next more =>
      rw [joinPieces, List.isChain_append, List.isChain_cons]
      refine ⟨inside whole, ⟨?_, ih others⟩, ?_⟩
      · intro d first _
        exact isSeparator_head?_joinPieces others first
      · intro c last d _ separates
        rw [whole.2 c (List.mem_of_getLast? last)] at separates
        cases separates

end Joined

section Cut

variable {separator : Char} {text : List Char}

/-- What is cut before a separator is all there behind it, if no separator is the last character and
no two are neighbours. -/
private theorem cut_whole (last : text.getLast? ≠ some separator)
    (single : text.IsChain fun c d => c = separator → d ≠ separator)
    (only : ∀ c ∈ text, isSeparator c = true ↔ c = separator) :
    (text.foldr (cutBefore isSeparator) ([], [])).1 ++
      (text.foldr (cutBefore isSeparator) ([], [])).2.flatMap (separator :: ·) = text := by
  induction text with
  | nil => rfl
  | cons c rest ih =>
    have ⟨here, others⟩ := List.forall_mem_cons.mp only
    have ⟨apart, single⟩ := List.isChain_cons.mp single
    have later : rest.getLast? ≠ some separator := by
      intro ends
      rw [List.getLast?_cons, ends] at last
      exact last rfl
    have whole := ih later single others
    rw [List.foldr_cons]
    cases kind : isSeparator c with
    | true =>
      have same := here.mp kind
      have front : (rest.foldr (cutBefore isSeparator) ([], [])).1 ≠ [] := by
        rw [front_of_cut]
        cases rest with
        | nil => simp [same] at last
        | cons d more =>
          have ordinary : isSeparator d = false := by
            rw [Bool.eq_false_iff]
            intro separates
            exact apart d rfl same ((others d List.mem_cons_self).mp separates)
          simp [ordinary]
      rw [cutBefore_separator kind, if_neg front]
      dsimp only
      rw [List.flatMap_cons, List.nil_append, List.cons_append, whole, same]
    | false => rw [cutBefore_ordinary kind, List.cons_append, whole]

/-- A text without a separator at its ends or beside another one is put together from its pieces. -/
theorem joinPieces_pieces (first : text.head? ≠ some separator)
    (last : text.getLast? ≠ some separator)
    (single : text.IsChain fun c d => c = separator → d ≠ separator)
    (only : ∀ c ∈ text, isSeparator c = true ↔ c = separator) :
    joinPieces separator (pieces isSeparator text) = text := by
  have whole := cut_whole last single only
  unfold pieces
  dsimp only
  cases text with
  | nil => rfl
  | cons c rest =>
    have ordinary : isSeparator c = false := by
      rw [Bool.eq_false_iff]
      intro separates
      exact first (congrArg some ((only c List.mem_cons_self).mp separates))
    have front : ((c :: rest).foldr (cutBefore isSeparator) ([], [])).1 ≠ [] := by
      rw [front_of_cut]
      simp [ordinary]
    rw [if_neg front, joinPieces_cons, whole]

end Cut

end HomeVoice.Text
