/-!
# Cutting a text at separators

`pieces` cuts a text at its separators and keeps no empty piece, so runs of separators, and
separators at either end, leave no trace.
-/

namespace HomeVoice.Text

/-- One character in front of what is already cut: the piece that starts the rest, possibly empty,
and the complete pieces behind it. -/
def cutBefore (isSeparator : Char → Bool) (c : Char) (rest : List Char × List (List Char)) :
    List Char × List (List Char) :=
  if isSeparator c then ([], if rest.1 = [] then rest.2 else rest.1 :: rest.2)
  else (c :: rest.1, rest.2)

/-- The maximal runs of characters that are no separators, in order. -/
def pieces (isSeparator : Char → Bool) (text : List Char) : List (List Char) :=
  let cut := text.foldr (cutBefore isSeparator) ([], [])
  if cut.1 = [] then cut.2 else cut.1 :: cut.2

/-- Pieces with one separator between neighbours. -/
def joinPieces (separator : Char) : List (List Char) → List Char
  | [] => []
  | [piece] => piece
  | piece :: next :: rest => piece ++ separator :: joinPieces separator (next :: rest)

example : joinPieces '-' (pieces (· == ' ') "  a b   c ".toList) = "a-b-c".toList := by decide

end HomeVoice.Text
