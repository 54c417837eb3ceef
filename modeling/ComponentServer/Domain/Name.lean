import ComponentServer.Domain.CodePoints
import ComponentServer.Domain.Direction
import ComponentServer.Domain.Joiner
import ComponentServer.Domain.Punycode
import ComponentServer.Domain.Replacement

/-!
Names of hosts, in the ASCII form to which reading brings them. Characters are brought to one form
first, so that names which differ in case only are the same. A label outside ASCII is written in
Punycode behind a mark, and a label behind the mark has to be one that is written so.
-/

namespace ComponentServer.Domain

/-- An ASCII character that no name may hold. -/
def isBarred (c : Char) : Bool :=
  decide (c.toNat ≤ 0x20) || c.toNat == 0x7F || "%#/:<>?@[\\]^|".toList.contains c

/-- The form of a character in names; some characters have none. -/
def fold? (c : Char) : Option Text :=
  if c.toNat < 0x80 then some [c.toLower]
  else if isDisallowed c then none
  else if isIgnored c then some []
  else some ((replacement? c).getD [c])

/-- Whether a label consists of characters in their form for names. -/
def isFolded (label : Text) : Bool :=
  label.all (fun c => fold? c == some [c]) && label.composed == label

/-- What stands in front of a label in Punycode. -/
def mark : Text := ['x', 'n', '-', '-']

/-- The longest text in Punycode that is read. -/
def longestWritten : Nat := 2000

/-- The longest label that is written in Punycode. -/
def longestLabel : Nat := 1000

/-- The label that stands behind the mark; one in ASCII would not stand there. -/
def unmark? (text : Text) : Option Text := do
  if text.getLast? == some '-' || longestWritten < text.length then none
  if !text.all Punycode.isBasic then none
  let label ← Punycode.decode? text
  if label.all Punycode.isBasic || !isFolded label || mark.isPrefixOf label then none
  return label

/-- A label without the mark, if it is well formed. -/
def readLabel? (text : Text) : Option Text := do
  let label ← if mark.isPrefixOf text then unmark? (text.drop mark.length) else some text
  if label.all Punycode.isBasic then return label
  if label.head?.any isMark || !isJoined label then none
  return label

/-- A label in ASCII. -/
def writeLabel? (label : Text) : Option Text :=
  if label.all Punycode.isBasic then some label
  else if longestLabel < label.length then none
  else some (mark ++ Punycode.encode label)

/-- A name in ASCII. -/
def toAscii? (name : Text) : Option Text := do
  let folded ← name.mapM fold?
  let labels ← (Text.splitAt '.' (Text.composed folded.flatten)).mapM readLabel?
  if !areDirected labels || labels.any (·.any isBarred) then none
  return List.intercalate ['.'] (← labels.mapM writeLabel?)

end ComponentServer.Domain
