import ComponentServer.Text.Composition

/-!
The composed form of text. Characters are taken apart as far as they go, the combining ones behind a
character are put in the order of their classes, and then characters are put together again where
nothing stands between them that combines in the same way.
-/

namespace ComponentServer.Composition

/-! Syllables of Hangul are numbered by the places of their letters. -/

def syllableBase : Nat := 0xAC00

def leadBase : Nat := 0x1100

def vowelBase : Nat := 0x1161

/-- One below the first letter that may end a syllable. -/
def tailBase : Nat := 0x11A7

def leadCount : Nat := 19

def vowelCount : Nat := 21

/-- How a syllable may end, counting no letter at all. -/
def tailCount : Nat := 28

def isIn (base count point : Nat) : Bool := decide (base ≤ point) && decide (point < base + count)

def isSyllable (point : Nat) : Bool := isIn syllableBase (leadCount * vowelCount * tailCount) point

/-- The letters of a syllable. -/
def letters (point : Nat) : List Nat :=
  let index := point - syllableBase
  let tail := index % tailCount
  let pair := [leadBase + index / (vowelCount * tailCount),
    vowelBase + index / tailCount % vowelCount]
  if tail = 0 then pair else pair ++ [tailBase + tail]

/-- The syllable that two letters, or a syllable and a letter, make. -/
def syllable? (first second : Nat) : Option Nat :=
  if isIn leadBase leadCount first && isIn vowelBase vowelCount second then
    some (syllableBase + ((first - leadBase) * vowelCount + (second - vowelBase)) * tailCount)
  else if isSyllable first && (first - syllableBase) % tailCount == 0 &&
      isIn (tailBase + 1) (tailCount - 1) second then
    some (first + (second - tailBase))
  else none

/-- The character that two others make. -/
def whole? (first second : Char) : Option Char :=
  ((syllable? first.toNat second.toNat).or
    ((pairs.find? fun pair => pair.first == first.toNat && pair.second == second.toNat).map
      (·.whole))).map Char.ofNat

/-- How often a character may come apart. -/
def depth : Nat := 4

/-- Takes a code point apart, at most `fuel` times. -/
def apart : Nat → Nat → List Nat
  | 0, point => [point]
  | fuel + 1, point =>
    if isSyllable point then letters point
    else
      match pairs.find? (·.whole == point) with
      | some pair => apart fuel pair.first ++ [pair.second]
      | none => [point]

/-- Puts a combining character behind those of its class and of lower ones; the text is reversed. -/
def insertMark (c : Char) : Text → Text
  | [] => [c]
  | d :: rest => if classOf c < classOf d then d :: insertMark c rest else c :: d :: rest

/-- The text with its characters apart and in order. -/
def decompose (text : Text) : Text :=
  let points := text.flatMap fun c => apart depth c.toNat
  ((points.map Char.ofNat).foldl (fun reversed c =>
    if classOf c = 0 then c :: reversed else insertMark c reversed) []).reverse

/-- Puts the characters behind `base` together with it; `between` holds those that stay apart, the
last one first. -/
def composeFrom (base : Char) (between : Text) : Text → Text
  | [] => base :: between.reverse
  | c :: rest =>
    let isBlocked := between.head?.any fun last => decide (classOf c ≤ classOf last)
    match if isBlocked then none else whole? base c with
    | some whole => composeFrom whole between rest
    | none =>
      if classOf c = 0 then base :: between.reverse ++ composeFrom c [] rest
      else composeFrom base (c :: between) rest

/-- Puts characters together; combining ones at the front have nothing to combine with. -/
def compose : Text → Text
  | [] => []
  | c :: rest => if classOf c = 0 then composeFrom c [] rest else c :: compose rest

end ComponentServer.Composition

namespace ComponentServer

/-- The composed form of a text; ASCII characters stay as they are. -/
def Text.composed (text : Text) : Text :=
  if text.all fun c => decide (c.toNat < 0x80) then text
  else Composition.compose (Composition.decompose text)

end ComponentServer
