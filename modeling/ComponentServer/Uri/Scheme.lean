import ComponentServer.Text.Basic

/-!
Schemes of URIs. Some have known rules: a backslash separates like a slash, and a port may be left
out.
-/

namespace ComponentServer.Scheme

def file : Text := "file".toList

/-- The schemes with known rules, and the ports they use unless another is given. -/
def ports : List (Text × Option Nat) :=
  [("http", some 80), ("https", some 443), ("ws", some 80), ("wss", some 443), ("ftp", some 21),
    ("file", none)].map fun entry => (entry.1.toList, entry.2)

def isKnown (scheme : Text) : Bool := (ports.lookup scheme).isSome

/-- Splits off the scheme. -/
def split? (input : Text) : Option (Text × Text) :=
  let inScheme := fun c : Char => c.isAlphanum || c == '+' || c == '-' || c == '.'
  match input.takeWhile inScheme, input.dropWhile inScheme with
  | c :: name, ':' :: rest => if c.isAlpha then some (Text.lower (c :: name), rest) else none
  | _, _ => none

/-- Whether a character separates segments. -/
def isSlash (known : Bool) (c : Char) : Bool := c == '/' || (known && c == '\\')

/-- Whether a character belongs to what stands in front of the query and the fragment. -/
def inFront (c : Char) : Bool := !(c == '?' || c == '#')

end ComponentServer.Scheme
