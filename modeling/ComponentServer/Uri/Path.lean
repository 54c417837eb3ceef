import ComponentServer.Uri.Percent

/-!
Paths of URIs. A path is walked segment by segment, so that `.` and `..` leave nothing behind but
the folder they lead to.
-/

namespace ComponentServer

/-- A line break or a tab, which reading passes over. -/
def isPassedOver (c : Char) : Bool := c == '\t' || c == '\n' || c == '\r'

/-- What is left of a text without line breaks and tabs. -/
def Text.shown (text : Text) : Text := text.filter (!isPassedOver ·)

/-- What follows the first `count` characters, line breaks and tabs not counted. -/
def Text.dropShown : Nat → Text → Text
  | 0, text => text
  | _, [] => []
  | count + 1, c :: rest =>
    if isPassedOver c then dropShown (count + 1) rest else dropShown count rest

/-- What follows the host. -/
inductive UriPath where
  /-- Not divided into segments. -/
  | whole (text : Text)
  /-- Each behind a `/`. -/
  | segments (list : List Text)
deriving DecidableEq, Repr

namespace UriPath

/-- Characters that are encoded in a fragment. -/
def inFragmentSet (c : Char) : Bool :=
  c == ' ' || c == '\x22' || c == '<' || c == '>' || c == '\x60'

/-- Characters that are encoded in a path. -/
def inPathSet (c : Char) : Bool :=
  inFragmentSet c || c == '#' || c == '?' || c == '\x7b' || c == '\x7d'

def encode (segment : Text) : Text := Percent.encode inPathSet segment

/-- A letter and a colon or bar, as at the start of some paths. -/
def isDriveLetter : Text → Bool
  | [a, b] => a.isAlpha && (b == ':' || b == '|')
  | _ => false

/-- Whether a segment stands for the folder itself. -/
def isHere (segment : Text) : Bool := segment == ['.'] || segment.lower == "%2e".toList

/-- Whether a segment stands for the folder above. -/
def isAbove (segment : Text) : Bool :=
  segment == ['.', '.'] || segment.lower == ".%2e".toList || segment.lower == "%2e.".toList ||
    segment.lower == "%2e%2e".toList

/-- Goes one folder up; a drive letter is never left. -/
def shorten (segments : List Text) : List Text :=
  if segments.getLast?.any isDriveLetter then segments else segments.dropLast

/-- Adds a segment; the last one ends the path, so a `.` or `..` there leaves an empty segment. -/
def add (reached : List Text) (isLast : Bool) (segment : Text) : List Text :=
  let ending := if isLast then [[]] else []
  if isAbove segment then shorten reached ++ ending
  else if isHere segment then reached ++ ending
  else reached ++ [encode segment]

/-- Adds segments one after the other. -/
def walk (reached : List Text) : List Text → List Text
  | [] => reached
  | segment :: others => walk (add reached others.isEmpty segment) others

/-- A drive letter at the start of a path, divided from what follows by a line break or a tab. -/
def splitDrive? (segment : Text) : Option (Text × Text) :=
  let drive := segment.shown.take 2
  let rest := segment.dropShown 2
  if isDriveLetter drive && rest.head?.any isPassedOver && !rest.shown.isEmpty then
    some (drive, rest.shown)
  else none

/-- A place in the files of a host. -/
structure Reached where
  segments : List Text
  /-- Whether a drive letter says where the file is, so that no host does. -/
  hasDrive : Bool
deriving DecidableEq, Repr

/-- Adds a segment of a file's path. At the start a drive letter gets its colon. -/
def addFile (reached : Reached) (isLast : Bool) (segment : Text) : Reached :=
  match reached.segments, segment.shown, splitDrive? segment with
  | [], _, some (drive, rest) => { reached with segments := [drive, encode rest] }
  | [], [letter, mark], none =>
    if isDriveLetter [letter, mark] then ⟨[[letter, ':']], true⟩
    else { reached with segments := add [] isLast [letter, mark] }
  | before, shown, _ => { reached with segments := add before isLast shown }

/-- Adds segments of a file's path one after the other. -/
def walkFile (reached : Reached) : List Text → Reached
  | [] => reached
  | segment :: others => walkFile (addFile reached others.isEmpty segment) others

/-- The segments of a file's path, without empty ones at the start. -/
def withoutLead (segments : List Text) : List Text :=
  match segments.dropWhile List.isEmpty with
  | [] => [[]]
  | kept => kept

/-- Splits a path; in some schemes a backslash is a separator, too. -/
def split (known : Bool) (path : Text) : List Text :=
  Text.splitAt '/' (if known then path.map fun c => if c = '\\' then '/' else c else path)

end UriPath

end ComponentServer
