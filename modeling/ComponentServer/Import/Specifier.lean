import ComponentServer.Text.Blank
import ComponentServer.Text.LineScan
import ComponentServer.Text.Word

/-!
Import specifiers: the quoted module names of the imports and exports of some code. The search goes
by the look of a line and does not parse the code.
-/

namespace ComponentServer

structure Specifier where
  name : Text
  span : Span
deriving DecidableEq, Repr

namespace Specifier

/-- A quoted name; the quotes at its ends may differ. -/
structure Quoted where
  first : Char
  name : Text
  last : Char
  /-- What follows the last quote. -/
  rest : Text

def isQuoteMark (c : Char) : Bool := c == '\x22' || c == '\x27'

/-- Reads a quoted name, which stays on one line and is not empty. -/
def readQuoted : Text → Option Quoted
  | [] => none
  | c :: rest =>
    let inName := fun d : Char => !(isQuoteMark d || d == '\n')
    match rest.takeWhile inName, rest.dropWhile inName with
    | n :: name, d :: left =>
      if isQuoteMark c && isQuoteMark d then some ⟨c, n :: name, d, left⟩ else none
    | _, _ => none

/-- Reads on to the first `from` that a quoted name follows. No quote, backtick or semicolon is
passed over, and the `from` must start a word. -/
def readFrom (previous : Char) : Text → Option Quoted
  | [] => none
  | c :: rest =>
    let here :=
      if isWord previous then none
      else (Text.after? "from".toList (c :: rest)).bind fun left =>
        readQuoted (left.dropWhile isBlank)
    match here with
    | some quoted => some quoted
    | none =>
      if isQuoteMark c || c == '\x60' || c == ';' then none else readFrom c rest

def isIndent (c : Char) : Bool := c == ' ' || c == '\t'

/-- Reads the names and the module of an import or export behind its keyword. -/
def readClause (keyword : Text) (line : Text) : Option Quoted := do
  let left ← Text.after? keyword line
  if left.head?.any isWord then none
  readFrom 't' left

/-- Reads an import for its effects, or an import or export of names. -/
def readLine (text : Text) : Option (Quoted × Text) :=
  let line := text.dropWhile isIndent
  let effect := (Text.after? "import".toList line).bind fun left =>
    readQuoted (left.dropWhile isIndent)
  let found :=
    (effect.or (readClause "import".toList line)).or (readClause "export".toList line)
  found.map fun quoted => (quoted, quoted.rest)

/-- A name that starts with `./` or `../`. -/
def isRelative (name : Text) : Bool :=
  ['.', '/'].isPrefixOf name || ['.', '.', '/'].isPrefixOf name

/-- The specifier of a quoted name in a text of `size` bytes. -/
def ofQuoted (size : Nat) (quoted : Quoted) : Specifier :=
  let stop := size - (quoted.rest.size + 1)
  ⟨quoted.name, ⟨stop - quoted.name.size, stop⟩⟩

/-- The relative specifiers of some code whose quotes match. -/
def relative (code : Text) : List Specifier :=
  ((Text.scanLines readLine code).filter fun quoted =>
    quoted.first == quoted.last && isRelative quoted.name).map (ofQuoted code.size)

end Specifier

end ComponentServer
