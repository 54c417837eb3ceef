import ComponentServer.Text.Basic

/-!
JSON values. Numbers keep their text, since nothing is computed with most of them. A string whose
escapes pair no surrogates has no text, because such a string may be passed over but not used; the
same holds of the names of members.
-/

namespace ComponentServer

inductive Json where
  | null
  | bool (value : Bool)
  | number (digits : Text)
  | string (text : Option Text)
  | array (items : List Json)
  | object (members : List (Option Text × Json))
deriving Repr, Inhabited

namespace Json

/-- The text of a string. -/
def text? : Json → Option Text
  | string text => text
  | _ => none

def textList? : Json → Option (List Text)
  | array items => items.mapM text?
  | _ => none

/-- The number that digits stand for. -/
def natural? (digits : Text) : Option Nat :=
  if digits.all Char.isDigit then some (digits.foldl (fun n c => 10 * n + (c.toNat - 48)) 0)
  else none

/-- A number written with digits only that fits an unsigned word of 32 bits. -/
def word? : Json → Option Nat
  | number digits => (natural? digits).bind fun n => if n < 1 <<< 32 then some n else none
  | _ => none

/-- A number written without a fraction or an exponent that fits a signed word of 32 bits. -/
def signed? : Json → Option Int
  | number ('-' :: digits) =>
    (natural? digits).bind fun n => if n ≤ 1 <<< 31 then some (-(n : Int)) else none
  | number digits => (natural? digits).bind fun n => if n < 1 <<< 31 then some (n : Int) else none
  | _ => none

/-- The value of a member that occurs at most once: a missing one is `some none`. -/
def member? (members : List (Option Text × Json)) (name : Text) : Option (Option Json) :=
  match members.filter (·.1 == some name) with
  | [] => some none
  | [found] => some (some found.2)
  | _ => none

/-- A part of a record, which stands under its name in an object or at its place in an array. -/
def part? (place : Nat) (name : String) : Json → Option Json
  | object members => members.lookup (some name.toList)
  | array items => items[place]?
  | _ => none

/-- A value that may be missing or null. -/
def optional? {α : Type} (read : Json → Option α) : Option Json → Option (Option α)
  | none => some none
  | some null => some none
  | some json => (read json).map some

/-- The four hexadecimal digits of a number below 2^16. -/
def hex4 (n : Nat) : Text :=
  [12, 8, 4, 0].map fun place => Nat.digitChar (n >>> place % 16)

/-- A character inside a string: quotes, backslashes and control characters are escaped. -/
def escape (c : Char) : Text :=
  if c = '\x22' then ['\\', '\x22']
  else if c = '\\' then ['\\', '\\']
  else if c = '\x08' then ['\\', 'b']
  else if c = '\x0c' then ['\\', 'f']
  else if c = '\n' then ['\\', 'n']
  else if c = '\r' then ['\\', 'r']
  else if c = '\t' then ['\\', 't']
  else if c.toNat < 0x20 then ['\\', 'u'] ++ hex4 c.toNat
  else [c]

/-- A text as a string literal. -/
def quote (text : Text) : Text := '\x22' :: text.flatMap escape ++ ['\x22']

end Json

end ComponentServer
