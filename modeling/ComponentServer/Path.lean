import ComponentServer.Text.Utf8

/-!
Paths: bytes with `/` between names, not always those of a text. Two paths are the same when they
have the same names: repeated separators, a separator at the end and a `.` behind the start do not
count, while `..` does.
-/

namespace ComponentServer

structure Path where
  bytes : List UInt8
deriving DecidableEq, Repr

namespace Path

/-- What stands between two separators. -/
abbrev Name := List UInt8

def separator : UInt8 := 0x2F

def dot : UInt8 := 0x2E

/-- The name of the folder itself. -/
def hereName : Name := [dot]

/-- The name of the folder above. -/
def aboveName : Name := [dot, dot]

def ofText (text : Text) : Path := ⟨text.utf8⟩

/-- The path as a text, with replacement characters for bytes that are none. -/
def toText (path : Path) : Text := Utf8.readLossy path.bytes

/-- How a path starts. -/
inductive Root where
  /-- At the root of all folders. -/
  | absolute
  /-- With an explicit `.`. -/
  | here
  | relative
deriving DecidableEq, Repr

def root (path : Path) : Root :=
  if path.bytes.head? = some separator then .absolute
  else if path.bytes = hereName ∨ (hereName ++ [separator]).isPrefixOf path.bytes then .here
  else .relative

/-- What stands in front of the names. -/
def lead (path : Path) : List UInt8 :=
  match path.root with
  | .relative => []
  | _ => path.bytes.take 1

/-- What stands behind the lead. -/
def body (path : Path) : List UInt8 := path.bytes.drop path.lead.length

/-- Splits at every separator. -/
def split : List UInt8 → List Name
  | [] => [[]]
  | byte :: rest =>
    if byte = separator then [] :: split rest
    else
      match split rest with
      | [] => [[byte]]
      | name :: others => (byte :: name) :: others

/-- The parts of a path that count for comparison. -/
structure Parts where
  root : Root
  names : List Name
deriving DecidableEq, Repr

def parts (path : Path) : Parts :=
  ⟨path.root, (split path.body).filter fun name => name != [] && name != hereName⟩

def same (left right : Path) : Bool := left.parts == right.parts

/-- Takes separators and names `.` away from the front of reversed bytes. -/
def trimBack : List UInt8 → List UInt8
  | [] => []
  | [byte] => if byte = separator ∨ byte = dot then [] else [byte]
  | a :: b :: rest =>
    if a = separator then trimBack (b :: rest)
    else if a = dot ∧ b = separator then trimBack rest
    else a :: b :: rest

/-- The last name of a path, unless that is `..`. -/
def fileName? (path : Path) : Option Name :=
  let name := ((trimBack path.body.reverse).takeWhile (· != separator)).reverse
  if name = [] ∨ name = aboveName then none else some name

/-- The path without its last name. -/
def parent? (path : Path) : Option Path :=
  match trimBack path.body.reverse with
  | [] => if path.root = .here then some ⟨[]⟩ else none
  | reversed =>
    some ⟨path.lead ++ (trimBack ((reversed.dropWhile (· != separator)).drop 1)).reverse⟩

/-- What follows the last dot of a name, unless the name starts with that dot. -/
def extensionOf? (name : Name) : Option Name :=
  match name.reverse.dropWhile (· != dot) with
  | _ :: _ :: _ => some (name.reverse.takeWhile (· != dot)).reverse
  | _ => none

def extension? (path : Path) : Option Name := path.fileName?.bind extensionOf?

def isAbsolute (path : Path) : Bool := path.root == .absolute

/-- A path seen from a folder; an absolute one stays as it is. -/
def join (folder path : Path) : Path :=
  if path.isAbsolute then path
  else if folder.bytes.isEmpty || folder.bytes.getLast? == some separator then
    ⟨folder.bytes ++ path.bytes⟩
  else ⟨folder.bytes ++ separator :: path.bytes⟩

end Path

end ComponentServer
