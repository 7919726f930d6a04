import HomeVoice.Json.Reader

/-!
# Paths of requests

A path is cut at its slashes, the query and what follows it apart. A segment that stands for
a value may have bytes written as a percent sign and two hexadecimal digits; it must be UTF-8 once
these are replaced.
-/

namespace HomeVoice.Api

/-- The pieces between the slashes of a text, empty ones included. -/
def segments : List Char → List (List Char)
  | [] => [[]]
  | '/' :: rest => [] :: segments rest
  | c :: rest =>
    match segments rest with
    | [] => [[c]]
    | first :: others => (c :: first) :: others

theorem segments_eq_splitOn (text : List Char) : segments text = text.splitOn '/' := by
  fun_induction segments text with
  | case1 => rfl
  | case2 rest ih =>
    rw [List.splitOn_cons_eq_if_modifyHead, ih]
    rfl
  | case3 c rest other none ih => exact absurd (ih.symm.trans none) (List.splitOn_ne_nil '/' rest)
  | case4 c rest other first others found ih =>
    rw [List.splitOn_cons_eq_if_modifyHead, ← ih, found, if_neg (by simpa using other)]
    rfl

/-- A text is put together again of its pieces. -/
theorem intercalate_segments (text : List Char) : ['/'].intercalate (segments text) = text := by
  rw [segments_eq_splitOn, List.intercalate_splitOn]

/-- The path of a request's target: all in front of the query. -/
def pathOf (target : List Char) : List Char := target.takeWhile fun c => c ≠ '?' && c ≠ '#'

/-- A byte as a hexadecimal digit. -/
def hexByte (byte : UInt8) : Option Nat := Json.OpenString.hexDigit (Char.ofNat byte.toNat)

/-- The bytes with the percent signs replaced. One without two digits behind it stays. -/
def percentDecode : List UInt8 → List UInt8
  | byte :: high :: low :: rest =>
    if byte = 0x25 then
      match hexByte high, hexByte low with
      | some tens, some ones => UInt8.ofNat (16 * tens + ones) :: percentDecode rest
      | _, _ => byte :: percentDecode (high :: low :: rest)
    else byte :: percentDecode (high :: low :: rest)
  | bytes => bytes

/-- The value that a segment stands for; none if it is not UTF-8. -/
def segmentValue (piece : List Char) : Option String :=
  String.fromUTF8? ⟨(percentDecode (String.ofList piece).toUTF8.toList).toArray⟩

example : segments "/a//b".toList = ["".toList, "a".toList, "".toList, "b".toList] := by decide
example : percentDecode [0x61, 0x25, 0x34, 0x31, 0x25, 0x5A, 0x5A, 0x25] =
    [0x61, 0x41, 0x25, 0x5A, 0x5A, 0x25] := by decide +kernel

end HomeVoice.Api
