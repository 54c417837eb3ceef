import ComponentServer.Path
import ComponentServer.Uri.Authority

/-!
URIs of documents, in the form to which reading brings them: a scheme in lower case, a host, a path
without `.` and `..`, and everything that needs it percent-encoded. Two documents are the same when
their URIs in this form are.
-/

namespace ComponentServer

structure Uri where
  scheme : Text
  authority : Option Authority
  path : UriPath
  query : Option Text
  fragment : Option Text
deriving DecidableEq, Repr

namespace Uri

open Scheme

/-- Characters that are encoded in a query. -/
def inQuerySet (known : Bool) (c : Char) : Bool :=
  c == ' ' || c == '\x22' || c == '#' || c == '<' || c == '>' || (known && c == '\x27')

/-- Takes control characters and blanks off the ends. -/
def trim (input : Text) : Text :=
  let isEdge := fun c : Char => decide (c.toNat ≤ 0x20)
  ((input.dropWhile isEdge).reverse.dropWhile isEdge).reverse

/-- The query and the fragment of a text, which starts with one of them unless it is empty. -/
def suffixes (known : Bool) (text : Text) : Option Text × Option Text :=
  let query :=
    match text with
    | '?' :: rest => some (rest.takeWhile (· != '#'))
    | _ => none
  let fragment := (text.dropWhile (· != '#')).tail?
  (query.map (Percent.encode (inQuerySet known)),
    fragment.map (Percent.encode UriPath.inFragmentSet))

/-- A URI whose path and what follows it are still to be read. -/
def ofRest (scheme : Text) (authority : Option Authority) (path : Text → UriPath) (rest : Text) :
    Uri :=
  let (query, fragment) := suffixes (isKnown scheme) (rest.dropWhile inFront)
  ⟨scheme, authority, path (rest.takeWhile inFront), query, fragment⟩

/-- The path behind an authority. -/
def pathBehind (known : Bool) (path : Text) : UriPath :=
  match path with
  | [] => .segments (if known then [[]] else [])
  | c :: body =>
    let body := if isSlash known c then body else path
    .segments (UriPath.walk [] (UriPath.split known body))

/-- Reads what follows the two slashes of a scheme. -/
def readHierarchy? (scheme rest : Text) : Option Uri := do
  let (authority, rest) ← Authority.read? scheme rest
  return ofRest scheme (some authority) (pathBehind (isKnown scheme)) rest

/-- The path of a file on a host, and whether a drive letter takes the place of the host. -/
def fileSegments (path : Text) : UriPath.Reached :=
  UriPath.walkFile ⟨[], false⟩ (UriPath.split true path)

/-- A file's URI. -/
def ofFile (host : Text) (reached : UriPath.Reached) (rest : Text) : Uri :=
  ofRest Scheme.file (some ⟨[], if reached.hasDrive then [] else host, []⟩)
    (fun _ => .segments (UriPath.withoutLead reached.segments)) rest

/-- Reads the URI of a file; the local host is left out, as is one in front of a drive letter. -/
def readFile? (rest : Text) : Option Uri := do
  let front : Text := rest.takeWhile inFront
  let behind := Text.shown (rest.dropWhile inFront)
  let slashes := front.shown.takeWhile (isSlash true)
  if slashes.length < 2 then
    return ofFile [] (fileSegments (front.dropShown (min slashes.length 1))) behind
  let name := (front.shown.drop 2).takeWhile (!isSlash true ·)
  if UriPath.isDriveLetter name then return ofFile [] (fileSegments (front.dropShown 2)) behind
  let host ← if name.isEmpty then some [] else Host.ofName? name
  let path : Text := front.dropShown (name.length + 2)
  if host.isEmpty || host == "localhost".toList then return ofFile [] (fileSegments path) behind
  return ofFile host (fileSegments (path.dropShown 1)) behind

/-- Reads a URI; one without a scheme is none. -/
def parse? (input : Text) : Option Uri := do
  let text := trim input
  let (scheme, rest) ← Scheme.split? text.shown
  if scheme = Scheme.file then readFile? ((text.dropWhile (· != ':')).drop 1)
  else if isKnown scheme then readHierarchy? scheme (rest.dropWhile (isSlash true))
  else
    match rest with
    | '/' :: '/' :: hierarchy => readHierarchy? scheme hierarchy
    | '/' :: body =>
      return ofRest scheme none
        (fun path => .segments (UriPath.walk [] (UriPath.split false path))) body
    | _ =>
      return ofRest scheme none (fun path => .whole (Percent.encode (fun _ => false) path)) rest

/-- The path as it is written. -/
def pathText (uri : Uri) : Text :=
  match uri.path with
  | .whole text => text
  | .segments list => list.flatMap ('/' :: ·)

/-- The URI as it is written. -/
def render (uri : Uri) : Text :=
  let authority :=
    match uri.authority with
    | some authority => ['/', '/'] ++ authority.user ++ authority.host ++ authority.port
    | none =>
      match uri.path with
      | .segments ([] :: _ :: _) => ['/', '.']
      | _ => []
  uri.scheme ++ [':'] ++ authority ++ uri.pathText ++
    (uri.query.map ('?' :: ·)).getD [] ++ (uri.fragment.map ('#' :: ·)).getD []

/-- Adds the separator that a drive letter at the end of a path needs. -/
def closeDrive (bytes : List UInt8) : List UInt8 :=
  let ending := Utf8.readLossy (bytes.drop (bytes.length - 2))
  if 2 < bytes.length ∧ UriPath.isDriveLetter ending then bytes ++ [Path.separator] else bytes

/-- The path of the file that a URI names: its segments decoded, on no host or the local one. -/
def filePath? (uri : Uri) : Option Path :=
  let host := (uri.authority.map Authority.host).getD []
  match uri.path with
  | .segments (segment :: others) =>
    if host.isEmpty || host == "localhost".toList then
      some ⟨closeDrive ((segment :: others).flatMap fun part =>
        Path.separator :: Percent.decode part)⟩
    else none
  | _ => none

/-- The name of the document: the path of its file, or else the path of its URI. -/
def fileName (uri : Uri) : Text := (uri.filePath?.map Path.toText).getD uri.pathText

end Uri

end ComponentServer
