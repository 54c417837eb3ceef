import ComponentServer.Toml.Scalar
import ComponentServer.Toml.Table

/-!
Reading TOML documents, version 1.0. A document is a list of lines: keys with values, headers that
say which table the keys after them belong to, and comments.
-/

namespace ComponentServer.Toml

/-- How deep arrays and inline tables may stand in one another, and how many parts a key may have. -/
def maxDepth : Nat := 79

def skipSpace (input : Text) : Text := input.dropWhile isSpace

/-- Passes over a comment, if there is one. -/
def skipComment : Text → Text
  | '#' :: rest => rest.dropWhile isPlain
  | input => input

/-- The rest of the document behind blanks, a comment and the end of the line. -/
def endLine? (input : Text) : Option Text :=
  match skipComment (skipSpace input) with
  | [] => some []
  | '\n' :: rest => some rest
  | '\r' :: '\n' :: rest => some rest
  | _ => none

/-- Passes over blanks, comments and line ends; `inComment` says that a comment has begun. A comment
must end with its line. -/
def skipLines (inComment : Bool) : Text → Option Text
  | [] => if inComment then none else some []
  | '\n' :: rest => skipLines false rest
  | '\r' :: '\n' :: rest => skipLines false rest
  | c :: rest =>
    if inComment then (if isPlain c then skipLines true rest else none)
    else if isSpace c then skipLines false rest
    else if c = '#' then skipLines true rest
    else some (c :: rest)

def inBareKey (c : Char) : Bool := c.isAlphanum || c == '-' || c == '_'

/-- Reads one part of a key. -/
def readKeyPart (input : Text) : Option (Text × Text) :=
  match input with
  | '\x22' :: rest => readBasic rest
  | '\x27' :: rest => readLiteral rest
  | _ =>
    match input.takeWhile inBareKey with
    | [] => none
    | part => some (part, input.dropWhile inBareKey)

/-- Reads a key of at most `room` parts: those in front of the last one, and the last one. -/
def readKey : Nat → Text → Option (List Text × Text × Text)
  | 0, _ => none
  | room + 1, input => do
    let (part, rest) ← readKeyPart (skipSpace input)
    match skipSpace rest with
    | '.' :: more =>
      let (path, last, left) ← readKey room more
      return (part :: path, last, left)
    | left => return ([], part, left)

mutual

/-- Reads a value; `depth` bounds the arrays and inline tables around it, `fuel` the steps. -/
def readValue (depth : Nat) : Nat → Text → Option (Value × Text)
  | 0, _ => none
  | fuel + 1, input =>
    match input with
    | '\x22' :: _ => (readString input).map fun read => (.string read.1, read.2)
    | '\x27' :: _ => (readString input).map fun read => (.string read.1, read.2)
    | '[' :: rest =>
      if depth = 0 then none
      else (readItems (depth - 1) fuel rest).map fun read => (.array read.1, read.2)
    | '\x7b' :: rest =>
      if depth = 0 then none
      else
        match skipSpace rest with
        | '\x7d' :: left => some (.table [], left)
        | keys =>
          (readPairs (depth - 1) fuel [] keys).map fun read =>
            (.table (Item.toEntries read.1), read.2)
    | _ => readScalar input

/-- Reads the items of an array and its closing bracket. -/
def readItems (depth : Nat) : Nat → Text → Option (List Value × Text)
  | 0, _ => none
  | fuel + 1, input => do
    match ← skipLines false input with
    | ']' :: left => return ([], left)
    | first =>
      let (value, rest) ← readValue depth fuel first
      match ← skipLines false rest with
      | ']' :: left => return ([value], left)
      | ',' :: more =>
        let (values, left) ← readItems depth fuel more
        return (value :: values, left)
      | _ => none

/-- Reads the pairs of an inline table and its closing brace. -/
def readPairs (depth : Nat) : Nat → Entries → Text → Option (Entries × Text)
  | 0, _, _ => none
  | fuel + 1, entries, input => do
    let (path, last, rest) ← readKey maxDepth input
    match rest with
    | '=' :: rest =>
      let (value, rest) ← readValue depth fuel (skipSpace rest)
      let entries ← entries.addDotted? value last path
      match skipSpace rest with
      | '\x7d' :: left => return (entries, left)
      | ',' :: more => readPairs depth fuel entries more
      | _ => none
    | _ => none

end

/-- What has been read: the finished tables, and the table that the next keys belong to. -/
structure Reading where
  root : Entries
  current : Entries
  /-- The header of the current table; the document itself has none. -/
  header : Option (List Text × Text)
  /-- Whether the header is a repeated one. -/
  repeated : Bool

namespace Reading

def start : Reading := ⟨[], [], none, false⟩

/-- Puts the current table into its place. -/
def finish? (reading : Reading) : Option Entries :=
  match reading.header with
  | none => some reading.current
  | some (path, last) =>
    reading.root.atHeader? (fun parent =>
      if reading.repeated then
        match parent.find? last with
        | some (.tables items) => some (parent.set last (.tables (items ++ [reading.current])))
        | _ => none
      else some (parent.set last (.table .header reading.current))) path

/-- Opens the table of a header. A table that only deeper headers have named is completed. -/
def open? (reading : Reading) (path : List Text) (last : Text) : Option Reading := do
  let root ← reading.finish?
  let parent ← find root path
  match parent.find? last with
  | none => return ⟨root, [], some (path, last), false⟩
  | some (.table .implied entries) =>
    let root ← root.atHeader? (fun parent => some (parent.remove last)) path
    return ⟨root, entries, some (path, last), false⟩
  | _ => none
where
  /-- The table that keys lead to, empty if it is missing. -/
  find (entries : Entries) : List Text → Option Entries
    | [] => some entries
    | key :: path =>
      match entries.find? key with
      | none => some []
      | some (.table _ inner) => find inner path
      | some (.tables items) => find (items.getLastD []) path
      | some (.value _) => none

/-- Opens one more table of a repeated header. -/
def openRepeated? (reading : Reading) (path : List Text) (last : Text) : Option Reading := do
  let root ← reading.finish?
  let root ← root.atHeader? (fun parent =>
    match parent.find? last with
    | none => some (parent.set last (.tables []))
    | some (.tables _) => some parent
    | _ => none) path
  return ⟨root, [], some (path, last), true⟩

/-- Adds a key and its value to the current table. -/
def add? (reading : Reading) (path : List Text) (last : Text) (value : Value) : Option Reading :=
  (reading.current.addDotted? value last path).map fun current =>
    { reading with current := current }

/-- Reads the line at the head of the input, which is not empty. -/
def readLine (reading : Reading) (input : Text) : Option (Reading × Text) :=
  match input with
  | '[' :: '[' :: rest => do
    let (path, last, rest) ← readKey maxDepth rest
    match rest with
    | ']' :: ']' :: rest => return (← reading.openRepeated? path last, ← endLine? rest)
    | _ => none
  | '[' :: rest => do
    let (path, last, rest) ← readKey maxDepth rest
    match rest with
    | ']' :: rest => return (← reading.open? path last, ← endLine? rest)
    | _ => none
  | c :: _ =>
    if c = '#' ∨ c = '\n' ∨ c = '\r' then (endLine? input).map fun rest => (reading, rest)
    else do
      let (path, last, rest) ← readKey maxDepth input
      match rest with
      | '=' :: rest =>
        let (value, rest) ← readValue maxDepth (2 * rest.length + 2) (skipSpace rest)
        return (← reading.add? path last value, ← endLine? rest)
      | _ => none
  | [] => none

/-- Reads all lines; `fuel` bounds their number. -/
def readLines (reading : Reading) : Nat → Text → Option Entries
  | 0, _ => none
  | fuel + 1, input =>
    match skipSpace input with
    | [] => reading.finish?
    | line => do
      let (next, rest) ← reading.readLine line
      next.readLines fuel rest

end Reading

/-- Passes over the mark that may open a text file. -/
def dropByteOrderMark : Text → Text
  | '\uFEFF' :: rest => rest
  | text => text

/-- The entries of a document. -/
def parse? (text : Text) : Option (List (Text × Value)) :=
  (Reading.start.readLines (text.length + 1) (dropByteOrderMark text)).map Item.toEntries

end ComponentServer.Toml
