import HomeVoice.Name
import HomeVoice.Text.Pieces

/-!
# Stems of rule names

Every device type of a grammar has rules of its own, and their names start with a stem that is
made from the type. Names of rules have only small letters, digits and the hyphen, so two types
may ask for one stem; the later one gets a number behind it.
-/

namespace HomeVoice.Grammar

/-- The characters of a stem, the hyphen apart. -/
def isStemChar (c : Char) : Bool := c.isDigit || c.isLower

/-- The stem that a name asks for: its runs of letters and digits with a hyphen between
neighbours, or `type` if it has none. -/
def baseStem (name : String) : List Char :=
  match Text.pieces (fun c => !isStemChar c) (name.toList.map Char.toLower) with
  | [] => "type".toList
  | pieces => Text.joinPieces '-' pieces

/-- A stem with a number behind it, which the first has not. -/
def numbered (base : List Char) (number : Nat) : List Char :=
  -- A counter of 32 bits gives the same numbers, for no list of types reaches its end. A number is
  -- tried only if the stems before it are in use, each by an earlier type that has searched from 1
  -- as well, so the number `2 ^ 31` would come after some `2 ^ 61` tries.
  if number = 1 then base else base ++ '-' :: Nat.toDigits 10 number

/-- The first of the numbered stems that is not in use; one more number than there are stems in
use is always enough. -/
def freshStem (used : List (List Char)) (base : List Char) : List Char :=
  let candidates := (List.range (used.length + 1)).map fun n => numbered base (n + 1)
  (candidates.find? fun stem => !used.contains stem).getD base

/-- The stems of a list of device types, in order, none in use before. -/
def stemsAfter (used : List (List Char)) : List DeviceType → List (List Char)
  | [] => []
  | deviceType :: rest =>
    let stem := freshStem used (baseStem deviceType.text)
    stem :: stemsAfter (stem :: used) rest

/-- The stems of a list of device types, in order. -/
def stems (types : List DeviceType) : List (List Char) := stemsAfter [] types

example : ["robot vacuum", "kid's  toys", "café", "ñ", "-a-"].map (String.ofList ∘ baseStem) =
    ["robot-vacuum", "kid-s-toys", "caf", "type", "a"] := by decide +kernel
example : freshStem ["tv-room".toList, "tv-room-2".toList] "tv-room".toList =
    "tv-room-3".toList := by decide +kernel

end HomeVoice.Grammar
