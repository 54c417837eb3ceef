import ComponentServer.Text.Basic

/-!
Editor positions. A position is a line and a UTF-16 column in it; only a newline ends a line.
-/

namespace ComponentServer

structure Position where
  line : Nat
  column : Nat
deriving DecidableEq, Repr, Inhabited

/-- A stretch between two positions. -/
structure Region where
  start : Position
  stop : Position
deriving DecidableEq, Repr, Inhabited

namespace Position

/-- The start of every text. -/
def zero : Position := ⟨0, 0⟩

/-- The position behind a character that stands at `position`. -/
def after (position : Position) (c : Char) : Position :=
  if c = '\n' then ⟨position.line + 1, 0⟩ else ⟨position.line, position.column + units16 c⟩

/-- Positions compare by line, then by column. -/
def before (left right : Position) : Bool :=
  left.line < right.line || (left.line == right.line && left.column < right.column)

end Position

namespace Text

/-- The position at the end of a text, read off its newlines and its last line. -/
def endPosition (text : Text) : Position :=
  ⟨text.count '\n', width (text.reverse.takeWhile (· != '\n'))⟩

end Text

end ComponentServer
