import ComponentServer.Text.Basic

/-!
Searching for a pattern at the starts of lines.
-/

namespace ComponentServer.Text

variable {α : Type}

/-- The finds of a reader at line starts, from left to right. A reader gives its find and what is
left of the text; the search goes on there. The first `skip` characters belong to the last find. -/
def scanLinesFrom (read : Text → Option (α × Text)) (skip : Nat) (atStart : Bool) : Text → List α
  | [] => []
  | c :: rest =>
    match skip with
    | skip + 1 => scanLinesFrom read skip (c == '\n') rest
    | 0 =>
      match (if atStart then read (c :: rest) else none) with
      | some (found, left) =>
        found :: scanLinesFrom read (rest.length - left.length) (c == '\n') rest
      | none => scanLinesFrom read 0 (c == '\n') rest

def scanLines (read : Text → Option (α × Text)) (text : Text) : List α :=
  scanLinesFrom read 0 true text

/-- What follows `word`, if the text starts with it. -/
def after? (word text : Text) : Option Text :=
  if word.isPrefixOf text then some (text.drop word.length) else none

end ComponentServer.Text
