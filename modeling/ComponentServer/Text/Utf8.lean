import ComponentServer.Text.Basic

/-!
UTF-8. Bytes are read with a replacement character for every stretch that is none; they are a text
when reading them loses nothing.
-/

namespace ComponentServer

/-- The bytes of a text. -/
def Text.utf8 (text : Text) : List UInt8 := text.flatMap String.utf8EncodeChar

namespace Utf8

/-- How many bytes follow the first one of a character, and what the second one may be. -/
def shape (byte : Nat) : Option (Nat × Nat × Nat) :=
  if byte < 0x80 then some (0, 0, 0)
  else if 0xC2 ≤ byte ∧ byte ≤ 0xDF then some (1, 0x80, 0xBF)
  else if byte = 0xE0 then some (2, 0xA0, 0xBF)
  else if byte = 0xED then some (2, 0x80, 0x9F)
  else if 0xE1 ≤ byte ∧ byte ≤ 0xEF then some (2, 0x80, 0xBF)
  else if byte = 0xF0 then some (3, 0x90, 0xBF)
  else if 0xF1 ≤ byte ∧ byte ≤ 0xF3 then some (3, 0x80, 0xBF)
  else if byte = 0xF4 then some (3, 0x80, 0x8F)
  else none

/-- Takes up to `count` bytes that go on with a character; only the first has limits of its own. -/
def takeTail : Nat → Nat → Nat → List Nat → List Nat
  | 0, _, _, _ => []
  | _ + 1, _, _, [] => []
  | count + 1, low, high, byte :: rest =>
    if low ≤ byte ∧ byte ≤ high then byte :: takeTail count 0x80 0xBF rest else []

/-- The character at the head of some bytes, and how many bytes behind the first it takes. -/
def step (byte : Nat) (rest : List Nat) : Char × Nat :=
  match shape byte with
  | none => ('\uFFFD', 0)
  | some (count, low, high) =>
    let tail := takeTail count low high rest
    if tail.length < count then ('\uFFFD', tail.length)
    else
      let lead := if count = 0 then byte else byte % 1 <<< (6 - count)
      (Char.ofNat (tail.foldl (fun n b => 64 * n + b % 64) lead), count)

/-- Reads on behind `skip` bytes. -/
def readFrom (skip : Nat) : List Nat → Text
  | [] => []
  | byte :: rest =>
    match skip with
    | skip + 1 => readFrom skip rest
    | 0 => (step byte rest).1 :: readFrom (step byte rest).2 rest

/-- Bytes as a text; a stretch that starts like a character and breaks off gives one replacement
character. -/
def readLossy (bytes : List UInt8) : Text := readFrom 0 (bytes.map UInt8.toNat)

/-- The text that bytes stand for, if they stand for one. -/
def read? (bytes : List UInt8) : Option Text :=
  let text := readLossy bytes
  if text.utf8 = bytes then some text else none

end Utf8

end ComponentServer
