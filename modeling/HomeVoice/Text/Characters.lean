/-!
# The characters of a text in bytes

A text that comes from outside is a sequence of bytes, and nobody has looked yet whether it is in
UTF-8. It is gone through character by character; a byte with which no character begins is seen
alone.
-/

namespace HomeVoice.Text

variable {σ : Type}

/-- Go through bytes, the first few of which belong to a character that was seen already. -/
def foldBytes (step : σ → Option Char → σ) (state : σ) : Nat → List UInt8 → σ
  | _, [] => state
  | passed + 1, _ :: rest => foldBytes step state passed rest
  | 0, byte :: rest =>
    -- No character has more than four bytes.
    match (byte :: rest.take 3).toByteArray.utf8DecodeChar? 0 with
    | some c => foldBytes step (step state c) (c.utf8Size - 1) rest
    | none => foldBytes step (step state none) 0 rest

/-- Go through the characters of a text in bytes. -/
def foldCharacters (step : σ → Option Char → σ) (state : σ) (text : ByteArray) : σ :=
  foldBytes step state 0 text.data.toList

example : foldCharacters (· ++ [·]) [] ⟨#[0x61, 0xC3, 0xBC, 0xE2, 0x82, 0x22, 0xED, 0xA0]⟩ =
    [some 'a', some 'ü', none, none, some '"', none, none] := by decide +kernel

end HomeVoice.Text
