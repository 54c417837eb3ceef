import ComponentServer.Text.Position
import ComponentServer.Text.Utf8

/-!
The line index of a text: a table of the offsets at which its lines start. An offset is looked up in
the table by halving, and the column is counted along the line that is found.
-/

namespace ComponentServer

/-- The offsets behind the newlines among some bytes that start at `place`. -/
def newlineStops (place : Nat) : List UInt8 → List Nat
  | [] => []
  | byte :: rest =>
    if byte = 10 then (place + 1) :: newlineStops (place + 1) rest
    else newlineStops (place + 1) rest

/-- Looks a value up between two places of a table in ascending order: the place of the value, or
else the place where it would have to be put. -/
def binarySearch (table : Array Nat) (value low high : Nat) (hhigh : high ≤ table.size) :
    Except Nat Nat :=
  if h : low < high then
    let middle := low + (high - low) / 2
    have hmiddle : middle < table.size := by omega
    if table[middle] = value then .ok middle
    else if table[middle] < value then binarySearch table value (middle + 1) high hhigh
    else binarySearch table value low middle (Nat.le_of_lt hmiddle)
  else .error low
termination_by high - low

/-- A text with the offsets at which its lines start. -/
structure LineIndex where
  source : Text
  starts : Array Nat
  starts_eq : starts = (0 :: newlineStops 0 source.utf8).toArray

namespace LineIndex

def of (source : Text) : LineIndex := ⟨source, _, rfl⟩

variable (index : LineIndex)

/-- The number of lines; a newline at the end opens an empty last line. -/
def lineCount : Nat := index.starts.size

/-- The byte offset at which a line starts. -/
def lineStart? (line : Nat) : Option Nat := index.starts[line]?

/-- The width of the characters that start before an offset, from `place` on. -/
def columnAt (offset place : Nat) : Text → Nat
  | [] => 0
  | c :: rest =>
    if offset ≤ place then 0 else units16 c + columnAt offset (place + c.utf8Size) rest

/-- The line that an offset is on. -/
def lineOf (offset : Nat) : Nat :=
  match binarySearch index.starts offset 0 index.starts.size (Nat.le_refl _) with
  | .ok line => line
  | .error line => line - 1

/-- The position of a byte offset; an offset inside a character stands behind it, and one past the
end of the text stands at the end. -/
def positionAt (offset : Nat) : Position :=
  let offset := min offset index.source.size
  let line := index.lineOf offset
  let start := (index.lineStart? line).getD 0
  let stop := (index.lineStart? (line + 1)).getD index.source.size
  ⟨line, columnAt offset start (index.source.slice ⟨start, stop⟩)⟩

/-- The first character from `place` on that has `column` units in front of it, where there are
`before` units in front of the place. -/
def seekColumn (column place before : Nat) : Text → Option Nat
  | [] => none
  | c :: rest =>
    if column ≤ before then some place
    else seekColumn column (place + c.utf8Size) (before + units16 c) rest

/-- The byte offset of a position: the first character of its line whose column is not before it, or
the end of the line, which is in front of its newline. There is none behind the last line. -/
def offsetAt? (position : Position) : Option Nat :=
  (index.lineStart? position.line).map fun start =>
    let stop := ((index.lineStart? (position.line + 1)).map (· - 1)).getD index.source.size
    (seekColumn position.column start 0 (index.source.slice ⟨start, stop⟩)).getD
      (min stop index.source.size)

end LineIndex

namespace Text

def lineCount (text : Text) : Nat := (LineIndex.of text).lineCount

def lineStart? (text : Text) (line : Nat) : Option Nat := (LineIndex.of text).lineStart? line

def positionAt (text : Text) (offset : Nat) : Position := (LineIndex.of text).positionAt offset

def offsetAt? (text : Text) (position : Position) : Option Nat :=
  (LineIndex.of text).offsetAt? position

/-- The offset of a line and a column that both count from one; column zero counts as one. -/
def offsetAtOneBased? (text : Text) (line column : Nat) : Option Nat :=
  if line = 0 then none else text.offsetAt? ⟨line - 1, column - 1⟩

def regionOf (text : Text) (span : Span) : Region :=
  ⟨text.positionAt span.start, text.positionAt span.stop⟩

/-- The span between two positions; a stop in front of the start counts as the start. -/
def spanOf? (text : Text) (region : Region) : Option Span := do
  let start ← text.offsetAt? region.start
  let stop ← text.offsetAt? region.stop
  return ⟨start, max stop start⟩

end Text

end ComponentServer
