import ComponentServer.Text.Position

/-!
Edits. The editor counts lines its own way: besides the newline, a carriage return alone or before a
newline ends a line, and so do the other line breaks of Unicode.
-/

namespace ComponentServer

/-- A region and the text it gives way to; without a region the whole text does. -/
structure Change where
  region : Option Region
  text : Text
deriving DecidableEq, Repr

namespace Change

/-- A character that ends a line of the editor. -/
def isBreak (c : Char) : Bool :=
  let n := c.toNat
  (0x0A ≤ n && n ≤ 0x0D) || n == 0x85 || n == 0x2028 || n == 0x2029

/-- The lines of the editor, each with the break that ends it. -/
def lines : Text → List Text
  | [] => [[]]
  | '\r' :: '\n' :: rest => ['\r', '\n'] :: lines rest
  | c :: rest =>
    if isBreak c then [c] :: lines rest
    else
      match lines rest with
      | [] => [[c]]
      | line :: others => (c :: line) :: others

/-- A line without the carriage returns and newlines at its end. -/
def lineBody (line : Text) : Text :=
  (line.reverse.dropWhile fun c => c == '\n' || c == '\r').reverse

/-- How many characters end within `column` UTF-16 code units. -/
def charsWithin : Text → Nat → Nat
  | [], _ => 0
  | c :: rest, column =>
    if units16 c ≤ column then 1 + charsWithin rest (column - units16 c) else 0

/-- The number of characters in front of a position. A column behind the line counts as its end, a
line behind the text as the end of the text. -/
def charIndex (text : Text) (position : Position) : Nat :=
  match (lines text).drop position.line with
  | [] => text.length
  | line :: _ =>
    ((lines text).take position.line).flatten.length + charsWithin (lineBody line) position.column

def apply (text : Text) (change : Change) : Text :=
  match change.region with
  | none => change.text
  | some region =>
    let start := charIndex text region.start
    let stop := max (charIndex text region.stop) start
    text.take start ++ change.text ++ text.drop stop

def applyAll (text : Text) (changes : List Change) : Text := changes.foldl apply text

end Change

end ComponentServer
