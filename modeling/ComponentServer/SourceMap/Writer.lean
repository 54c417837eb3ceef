import ComponentServer.SourceMap.Mappings

/-!
Writing mappings. Marks are added in the order of the generated text and point into one source.
-/

namespace ComponentServer.SourceMap

/-- A mark at a line of the generated text, with a line and a column of the only source. -/
structure Anchor where
  line : Nat
  column : Nat
  source : Option (Nat × Nat)
deriving DecidableEq, Repr

/-- The text so far, and what the next differences are taken from. -/
structure Writer where
  output : Text
  line : Nat
  /-- How many marks the current line has. -/
  marks : Nat
  column : Nat
  sourceLine : Nat
  sourceColumn : Nat
deriving DecidableEq, Repr

namespace Writer

def empty : Writer := ⟨[], 0, 0, 0, 0, 0⟩

/-- Goes on to a later line; a line that has been reached is kept. -/
def toLine (writer : Writer) (line : Nat) : Writer :=
  if writer.line < line then
    { writer with
      output := writer.output ++ List.replicate (line - writer.line) ';'
      line := line
      marks := 0
      column := 0 }
  else writer

/-- Writes a mark on the current line. -/
def put (writer : Writer) (column : Nat) (source : Option (Nat × Nat)) : Writer :=
  let separator : Text := if writer.marks = 0 then [] else [',']
  let output := writer.output ++ separator ++ Vlq.encode ((column : Int) - writer.column)
  let marked := { writer with output := output, marks := writer.marks + 1, column := column }
  match source with
  | none => marked
  | some (line, sourceColumn) =>
    { marked with
      output := output ++ Vlq.encode 0 ++ Vlq.encode ((line : Int) - writer.sourceLine) ++
        Vlq.encode ((sourceColumn : Int) - writer.sourceColumn)
      sourceLine := line
      sourceColumn := sourceColumn }

def add (writer : Writer) (anchor : Anchor) : Writer :=
  (writer.toLine anchor.line).put anchor.column anchor.source

end Writer

/-- The text form of anchors added one after the other. -/
def encode (anchors : List Anchor) : Text := (anchors.foldl Writer.add .empty).output

end ComponentServer.SourceMap
