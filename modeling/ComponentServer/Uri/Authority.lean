import ComponentServer.Uri.Host
import ComponentServer.Uri.Scheme
import ComponentServer.Uri.Path

/-!
Authorities of URIs: who asks, at which host, and at which port.
-/

namespace ComponentServer

/-- What stands between `//` and the path. -/
structure Authority where
  /-- With the `@` behind it. -/
  user : Text
  host : Text
  /-- With the colon in front of it. -/
  port : Text
deriving DecidableEq, Repr

namespace Authority

open Scheme

/-- Characters that are encoded in a user's name. -/
def inUserSet (c : Char) : Bool :=
  UriPath.inPathSet c || c == '/' || c == ':' || c == ';' || c == '=' || c == '@' || c == '[' ||
    c == '\\' || c == ']' || c == '^' || c == '|'

/-- Reads a port and what follows it; the port that the scheme uses anyway is left out. -/
def port? (scheme text : Text) : Option (Text × Text) := do
  let digits := text.takeWhile Char.isDigit
  let rest := text.dropWhile Char.isDigit
  if rest.head?.any fun c => inFront c && !isSlash true c then none
  if digits.isEmpty then return ([], rest)
  let n ← Host.digitsIn? 10 digits
  if 65535 < n then none
  return (if ports.lookup scheme == some (some n) then [] else ':' :: Text.ofNat n, rest)

/-- The user's name and password in front of the last `@`. -/
def userOf (text : Text) : Text :=
  let name := text.takeWhile (· != ':')
  let encoded := Percent.encode inUserSet name
  match (text.dropWhile (· != ':')).tail? with
  | some (c :: password) => encoded ++ ':' :: Percent.encode inUserSet (c :: password) ++ ['@']
  | _ => if encoded.isEmpty then [] else encoded ++ ['@']

/-- The length of a host's text; colons in brackets belong to it. -/
def hostLength (known inBrackets : Bool) : Text → Nat
  | [] => 0
  | c :: rest =>
    if (c == ':' && !inBrackets) || isSlash known c || !inFront c then 0
    else 1 + hostLength known (c == '[' || (inBrackets && c != ']')) rest

/-- The user in front of the last `@` in a text, and what follows. A text that starts with this `@`
names no user, but then a host has to follow. -/
def user? (known : Bool) (text : Text) : Option (Text × Text) :=
  let reach := text.takeWhile fun c => inFront c && !isSlash known c
  if !reach.contains '@' then some ([], text)
  else
    let user := ((reach.reverse.dropWhile (· != '@')).drop 1).reverse
    let rest := text.drop (user.length + 1)
    if user.isEmpty && rest.head?.any fun c => isSlash known c || !inFront c then none
    else some (userOf user, rest)

/-- Reads what stands between `//` and the path, and gives the rest. -/
def read? (scheme text : Text) : Option (Authority × Text) := do
  let known := isKnown scheme
  let (user, location) ← user? known text
  let name := location.take (hostLength known false location)
  let host ← if known then Host.ofName? name else Host.ofOpaque? name
  let rest := location.drop name.length
  if host.isEmpty && (!user.isEmpty || rest.head? == some ':') then none
  match rest with
  | ':' :: digits =>
    let (port, rest) ← port? scheme digits
    return (⟨user, host, port⟩, rest)
  | _ => return (⟨user, host, []⟩, rest)

end Authority

end ComponentServer
