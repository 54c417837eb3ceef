import ComponentServer.Text.Basic

/-!
Punycode: labels of any characters, written in ASCII. The ASCII characters of a label come first.
Then every other character, least code point first, is told by how far it lies behind the one
before, counted over code points and over the places where it could be inserted.
-/

namespace ComponentServer.Domain.Punycode

def isBasic (c : Char) : Bool := decide (c.toNat < 0x80)

/-- The digits `a` to `z`, then `0` to `9`. -/
def digit (n : Nat) : Char := Char.ofNat (if n < 26 then 0x61 + n else 0x30 + (n - 26))

/-- The least digit at a place that does not end a number. -/
def threshold (bias place : Nat) : Nat := max 1 (min 26 (place - bias))

/-- The digits of a number, the lowest first; places count in steps of 36. -/
def digits (bias place n : Nat) : Text :=
  let least := threshold bias place
  if n < least then [digit n]
  else
    digit (least + (n - least) % (36 - least)) ::
      digits bias (place + 36) ((n - least) / (36 - least))
termination_by n
decreasing_by
  have positive : 1 ≤ threshold bias place := Nat.le_max_left _ _
  have smaller := Nat.div_le_self (n - threshold bias place) (36 - threshold bias place)
  omega

/-- The bias for numbers of about this size. -/
def biasFor (n : Nat) : Nat :=
  if 455 < n then 36 + biasFor (n / 35) else 36 * n / (n + 38)
termination_by n

structure Progress where
  output : Text
  /-- The distance since the last character that was written. -/
  distance : Nat
  bias : Nat
  /-- How many characters of the label are written. -/
  written : Nat

/-- Writes one more character, whose distance is known. -/
def Progress.emit (first : Bool) (progress : Progress) : Progress :=
  let scaled := progress.distance / (if first then 700 else 2)
  { output := progress.output ++ digits progress.bias 36 progress.distance
    distance := 0
    bias := biasFor (scaled + scaled / (progress.written + 1))
    written := progress.written + 1 }

/-- Goes through the label once and writes every `point` in it; each lesser character is a place
where it could be inserted. -/
def writePoint (label : Text) (basic point : Nat) (progress : Progress) : Progress :=
  label.foldl (fun progress c =>
    if c.toNat < point then { progress with distance := progress.distance + 1 }
    else if c.toNat = point then progress.emit (progress.written = basic)
    else progress) progress

/-- Writes the characters with the given code points, in rising order; `next` is the least that is
not written yet. -/
def writePoints (label : Text) (basic : Nat) : List Nat → Nat → Progress → Progress
  | [], _, progress => progress
  | point :: others, next, progress =>
    let skipped := (point - next) * (progress.written + 1)
    let reached := writePoint label basic point
      { progress with distance := progress.distance + skipped }
    writePoints label basic others (point + 1) { reached with distance := reached.distance + 1 }

/-- The code points above ASCII, in rising order and without repetition. -/
def points (label : Text) : List Nat :=
  ((label.filter (!isBasic ·)).map Char.toNat).mergeSort.eraseReps

def encode (label : Text) : Text :=
  let basic := label.filter isBasic
  let front := if basic.isEmpty then [] else basic ++ ['-']
  (writePoints label basic.length (points label) 0x80 ⟨front, 0, 72, basic.length⟩).output

/-- The value of a digit in lower case. -/
def value? (c : Char) : Option Nat :=
  if c.isLower then some (c.toNat - 0x61)
  else if c.isDigit then some (c.toNat - 0x30 + 26)
  else none

/-- A label of which a part is read, and the number that is being read. -/
structure Reading where
  label : Text
  /-- The code point that was inserted last. -/
  point : Nat
  /-- Where the number starts to count. -/
  start : Nat
  bias : Nat
  /-- What the digits so far stand for. -/
  number : Nat
  place : Nat
  /-- What a one at this place stands for. -/
  weight : Nat

/-- Ends a number, and inserts the character that it tells about. -/
def Reading.insert? (first : Bool) (reading : Reading) : Option Reading :=
  let count := reading.label.length + 1
  let reached := reading.start + reading.number
  let point := reading.point + reached / count
  let scaled := reading.number / (if first then 700 else 2)
  if point.isValidChar then
    some {
      label := reading.label.insertIdx (reached % count) (Char.ofNat point)
      point := point
      start := reached % count + 1
      bias := biasFor (scaled + scaled / count)
      number := 0
      place := 36
      weight := 1 }
  else none

/-- Reads numbers to the end; `basic` is how many characters the label had at first. -/
def readNumbers? (basic : Nat) (reading : Reading) : Text → Option Text
  | [] => if reading.place = 36 then some reading.label else none
  | c :: rest => do
    let digit ← value? c
    let least := threshold reading.bias reading.place
    let added := { reading with number := reading.number + digit * reading.weight }
    if digit < least then
      let next ← added.insert? (reading.label.length = basic)
      readNumbers? basic next rest
    else
      readNumbers? basic
        { added with place := reading.place + 36, weight := reading.weight * (36 - least) } rest

/-- Splits a text at its last `-`, which is left out unless the text starts with it. -/
def splitBasic (text : Text) : Text × Text :=
  let tail := (text.reverse.takeWhile (· != '-')).reverse
  let basic := text.take (text.length - tail.length - 1)
  if basic.isEmpty then ([], text) else (basic, tail)

/-- The label that `encode` writes in this way. -/
def decode? (text : Text) : Option Text :=
  let (basic, numbers) := splitBasic text
  readNumbers? basic.length ⟨basic, 0x80, 0, 72, 0, 36, 1⟩ numbers

end ComponentServer.Domain.Punycode
