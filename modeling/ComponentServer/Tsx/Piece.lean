import ComponentServer.Markup.Tree
import ComponentServer.SourceMap.Writer
import ComponentServer.Text.LineIndex

/-!
Pieces of generated code. A piece is copied from the document or made up; the copied ones carry
anchors at their start, at the start of each further line and at their end.
-/

namespace ComponentServer.Tsx

open Markup SourceMap

inductive Piece where
  | copied (start : Nat) (text : Text)
  | made (text : Text)
deriving DecidableEq, Repr

namespace Piece

def text : Piece → Text
  | copied _ text => text
  | made text => text

/-- Copies a stretch of the document. -/
def copy (source : Text) (span : Span) : Piece := .copied span.start (source.slice span)

/-- Keeps the end of a comment from occurring in it. -/
def guardComment : Text → Text
  | [] => []
  | '*' :: '/' :: rest => '*' :: ' ' :: '/' :: guardComment rest
  | c :: rest => c :: guardComment rest

/-- The opening tag of a void element without its bracket, so that `/>` can follow. -/
def dropBracket (opening : Text) : Text :=
  if opening.getLast? = some '>' then opening.dropLast else opening

mutual

/-- The code of a node. Every element comes out closed: a void one by `/>`, an unclosed one by a
closing tag made up for it. Scripts and styles lose their content. -/
def ofNode (source : Text) : Node → List Piece
  | .text span => [copy source span]
  | .comment span _ =>
    [.made ("\x7b/*".toList ++ guardComment (source.slice span) ++ "*/\x7d".toList)]
  | .element head children =>
    match head.startTagEnd with
    | none => [copy source head.span, .made " />".toList]
    | some stop =>
      let opening := source.slice ⟨head.span.start, stop⟩
      if head.selfClosing then [.copied head.span.start opening]
      else if head.isVoid then
        [.copied head.span.start (dropBracket opening), .made "/>".toList]
      else
        let inner := if head.isRaw then [] else ofNodes source children
        let closing :=
          match head.endTagStart with
          | some start =>
            if head.closed then copy source ⟨start, head.span.stop⟩
            else .made ("</".toList ++ head.tag ++ ['>'])
          | none => .made ("</".toList ++ head.tag ++ ['>'])
        .copied head.span.start opening :: inner ++ [closing]

def ofNodes (source : Text) : List Node → List Piece
  | [] => []
  | node :: others => ofNode source node ++ ofNodes source others

end

/-- The position behind a text that stands at `position`. -/
def advance (position : Position) (text : Text) : Position := text.foldl Position.after position

/-- The anchors of text copied from `offset` on to `position`; one opens each line of it, the last
one ends it. -/
def copyAnchors (source : Text) (offset : Nat) (position : Position) (opens : Bool) :
    Text → List Anchor
  | [] => [⟨position.line, position.column, none⟩]
  | c :: rest =>
    let others := copyAnchors source (offset + c.utf8Size) (position.after c) (c == '\n') rest
    if opens then
      let place := source.positionAt offset
      ⟨position.line, position.column, some (place.line, place.column)⟩ :: others
    else others

def anchorsAt (source : Text) (position : Position) : Piece → List Anchor
  | copied start text => if text.isEmpty then [] else copyAnchors source start position true text
  | made _ => []

/-- The anchors of pieces that follow each other from `position` on. -/
def anchors (source : Text) (position : Position) : List Piece → List Anchor
  | [] => []
  | piece :: others =>
    piece.anchorsAt source position ++ anchors source (advance position piece.text) others

/-- The code that pieces make up. -/
def code (pieces : List Piece) : Text := pieces.flatMap Piece.text

end Piece

end ComponentServer.Tsx
