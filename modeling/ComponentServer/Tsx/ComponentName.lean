import ComponentServer.Text.Basic

/-!
The name of the component that a file defines, as an identifier that starts with a capital.
-/

namespace ComponentServer.Tsx

/-- A character that an identifier may hold. -/
def inIdentifier (c : Char) : Bool := c.isAlphanum || c == '_' || c == '$'

/-- The file's own name, without its folders and from its first dot on. -/
def stem (fileName : Text) : Text :=
  let base := (fileName.reverse.takeWhile fun c => c != '/' && c != '\\').reverse
  base.takeWhile (· != '.')

/-- Keeps the characters of identifiers and capitalises each run of them. -/
def capitalize : (inRun : Bool) → Text → Text
  | _, [] => []
  | inRun, c :: rest =>
    if inIdentifier c then (if inRun then c else c.toUpper) :: capitalize true rest
    else capitalize false rest

/-- The component's name; one that is empty or starts with a digit gets a word in front. -/
def componentName (fileName : Text) : Text :=
  let name := capitalize false (stem fileName)
  match name with
  | [] => "Component".toList
  | c :: _ => if c.isDigit then "Component".toList ++ name else name

end ComponentServer.Tsx
