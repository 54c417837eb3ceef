import ComponentServer.Text.Basic

/-!
Tables of code points in a written form: words between blanks, each a hexadecimal number or two of
them joined by `-`, the first and the last of a range.
-/

namespace ComponentServer

structure CodeRange where
  first : Nat
  last : Nat
deriving DecidableEq, Repr

namespace CodeRange

def contains (range : CodeRange) (point : Nat) : Bool :=
  decide (range.first ≤ point) && decide (point ≤ range.last)

end CodeRange

namespace RangeTable

/-- The number of hexadecimal digits in upper case. -/
def number (digits : Text) : Nat :=
  digits.foldl (fun n c => 16 * n + (if c.isDigit then c.toNat - 48 else c.toNat - 55)) 0

/-- The range that a word stands for. -/
def range (word : Text) : CodeRange :=
  match (Text.splitAt '-' word).map number with
  | [first, last] => ⟨first, last⟩
  | numbers => ⟨numbers.headD 0, numbers.headD 0⟩

/-- The words of a table, between blanks and line breaks. -/
def words (written : String) : List Text :=
  let blanked := written.toList.map fun c => if c = '\n' then ' ' else c
  (Text.splitAt ' ' blanked).filter (!List.isEmpty ·)

def read (written : String) : List CodeRange := (words written).map range

def contains (table : List CodeRange) (c : Char) : Bool := table.any (·.contains c.toNat)

end RangeTable

end ComponentServer
