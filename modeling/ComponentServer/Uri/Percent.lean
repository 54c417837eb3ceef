import ComponentServer.Text.Utf8

/-!
Percent-encoding. A character is encoded byte by byte, and decoding gives bytes, which need not be
those of a text.
-/

namespace ComponentServer.Percent

def hexDigit (n : Nat) : Char := (Nat.digitChar n).toUpper

def encodeByte (byte : UInt8) : Text :=
  ['%', hexDigit (byte.toNat / 16), hexDigit (byte.toNat % 16)]

/-- Encodes the characters outside ASCII, the control characters and those of a set. -/
def encode (set : Char → Bool) (text : Text) : Text :=
  text.flatMap fun c =>
    if c.toNat < 0x20 || 0x7E < c.toNat || set c then (String.utf8EncodeChar c).flatMap encodeByte
    else [c]

def hexValue? (c : Char) : Option Nat :=
  if c.isDigit then some (c.toNat - 48)
  else if 'a' ≤ c ∧ c ≤ 'f' then some (c.toNat - 87)
  else if 'A' ≤ c ∧ c ≤ 'F' then some (c.toNat - 55)
  else none

/-- The bytes of a text, with every `%` and two digits taken for one byte. -/
def decode : Text → List UInt8
  | [] => []
  | '%' :: a :: b :: rest =>
    match hexValue? a, hexValue? b with
    | some high, some low => UInt8.ofNat (16 * high + low) :: decode rest
    | _, _ => UInt8.ofNat 0x25 :: decode (a :: b :: rest)
  | c :: rest => String.utf8EncodeChar c ++ decode rest

end ComponentServer.Percent
