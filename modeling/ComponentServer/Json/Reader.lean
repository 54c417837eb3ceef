import ComponentServer.Json.Value

/-!
Reading JSON. Every reader gives the value at the head of its input and what is left of the input,
or nothing when the input is malformed.
-/

namespace ComponentServer.Json

def isSpace (c : Char) : Bool := c == ' ' || c == '\n' || c == '\t' || c == '\r'

def skipSpace (input : Text) : Text := input.dropWhile isSpace

/-- What a string literal is made of: characters, and UTF-16 code units given by number. -/
inductive StringPart where
  | char (c : Char)
  | unit (n : Nat)
deriving DecidableEq, Repr

def hexDigit? (c : Char) : Option Nat :=
  if '0' ≤ c ∧ c ≤ '9' then some (c.toNat - 48)
  else if 'a' ≤ c ∧ c ≤ 'f' then some (c.toNat - 87)
  else if 'A' ≤ c ∧ c ≤ 'F' then some (c.toNat - 55)
  else none

def unit? (a b c d : Char) : Option Nat := do
  return 4096 * (← hexDigit? a) + 256 * (← hexDigit? b) + 16 * (← hexDigit? c) + (← hexDigit? d)

/-- The character of a short escape. -/
def shortEscape? (c : Char) : Option Char :=
  if c = '\x22' ∨ c = '\\' ∨ c = '/' then some c
  else if c = 'b' then some '\x08'
  else if c = 'f' then some '\x0c'
  else if c = 'n' then some '\n'
  else if c = 'r' then some '\r'
  else if c = 't' then some '\t'
  else none

/-- Reads the rest of a string literal and its closing quote. Control characters must be escaped. -/
def readParts : Text → Option (List StringPart × Text)
  | [] => none
  | '\x22' :: rest => some ([], rest)
  | '\\' :: 'u' :: a :: b :: c :: d :: rest => do
    let n ← unit? a b c d
    let (parts, left) ← readParts rest
    return (.unit n :: parts, left)
  | '\\' :: c :: rest => do
    let c ← shortEscape? c
    let (parts, left) ← readParts rest
    return (.char c :: parts, left)
  | c :: rest =>
    if c.toNat < 0x20 ∨ c = '\\' then none
    else do
      let (parts, left) ← readParts rest
      return (.char c :: parts, left)

/-- Joins code units to characters; a surrogate without its partner has no character. -/
def joinParts : List StringPart → Option Text
  | [] => some []
  | .char c :: rest => (joinParts rest).map (c :: ·)
  | .unit high :: rest =>
    if high < 0xD800 ∨ 0xDFFF < high then (joinParts rest).map (Char.ofNat high :: ·)
    else
      match rest with
      | .unit low :: rest =>
        if high < 0xDC00 ∧ 0xDC00 ≤ low ∧ low ≤ 0xDFFF then
          (joinParts rest).map
            (Char.ofNat (0x10000 + (high - 0xD800) * 0x400 + (low - 0xDC00)) :: ·)
        else none
      | _ => none

/-- Splits off digits, at least one. -/
def splitDigits? (input : Text) : Option (Text × Text) :=
  match input.takeWhile Char.isDigit with
  | [] => none
  | digits => some (digits, input.dropWhile Char.isDigit)

/-- Splits off the whole part of a number, which starts with no needless zero. -/
def splitWhole? (input : Text) : Option (Text × Text) :=
  match input with
  | '0' :: rest =>
    match rest with
    | c :: _ => if c.isDigit then none else some (['0'], rest)
    | [] => some (['0'], [])
  | _ => splitDigits? input

/-- Splits off a fraction, if there is one. -/
def splitFraction? (input : Text) : Option (Text × Text) :=
  match input with
  | '.' :: rest => (splitDigits? rest).map fun halves => ('.' :: halves.1, halves.2)
  | _ => some ([], input)

/-- Splits off an exponent, if there is one. -/
def splitExponent? (input : Text) : Option (Text × Text) :=
  match input with
  | c :: rest =>
    if c = 'e' ∨ c = 'E' then
      match rest with
      | s :: tail =>
        if s = '+' ∨ s = '-' then
          (splitDigits? tail).map fun halves => (c :: s :: halves.1, halves.2)
        else (splitDigits? rest).map fun halves => (c :: halves.1, halves.2)
      | [] => none
    else some ([], input)
  | [] => some ([], [])

/-- Splits off a number without its sign. -/
def splitUnsigned? (input : Text) : Option (Text × Text) := do
  let (whole, rest) ← splitWhole? input
  let (fraction, rest) ← splitFraction? rest
  let (exponent, rest) ← splitExponent? rest
  return (whole ++ fraction ++ exponent, rest)

def splitNumber? (input : Text) : Option (Text × Text) :=
  match input with
  | '-' :: rest => (splitUnsigned? rest).map fun halves => ('-' :: halves.1, halves.2)
  | _ => splitUnsigned? input

def readLiteral (word : Text) (value : Json) (input : Text) : Option (Json × Text) :=
  if word.isPrefixOf input then some (value, input.drop word.length) else none

mutual

/-- Reads a value that starts here; `fuel` bounds the values inside one another. -/
def readValue : Nat → Text → Option (Json × Text)
  | 0, _ => none
  | fuel + 1, input =>
    match input with
    | '\x22' :: rest => do
      let (parts, left) ← readParts rest
      return (.string (joinParts parts), left)
    | '[' :: rest =>
      match skipSpace rest with
      | ']' :: left => some (.array [], left)
      | items => do
        let (values, left) ← readItems fuel items
        return (.array values, left)
    | '\x7b' :: rest =>
      match skipSpace rest with
      | '\x7d' :: left => some (.object [], left)
      | entries => do
        let (members, left) ← readMembers fuel entries
        return (.object members, left)
    | 'n' :: _ => readLiteral ['n', 'u', 'l', 'l'] .null input
    | 't' :: _ => readLiteral ['t', 'r', 'u', 'e'] (.bool true) input
    | 'f' :: _ => readLiteral ['f', 'a', 'l', 's', 'e'] (.bool false) input
    | _ => do
      let (digits, left) ← splitNumber? input
      return (.number digits, left)

/-- Reads the items of an array, at least one, and its closing bracket. -/
def readItems : Nat → Text → Option (List Json × Text)
  | 0, _ => none
  | fuel + 1, input => do
    let (value, rest) ← readValue fuel input
    match skipSpace rest with
    | ']' :: left => return ([value], left)
    | ',' :: more =>
      let (values, left) ← readItems fuel (skipSpace more)
      return (value :: values, left)
    | _ => none

/-- Reads the members of an object, at least one, and its closing brace. -/
def readMembers : Nat → Text → Option (List (Option Text × Json) × Text)
  | 0, _ => none
  | fuel + 1, input =>
    match input with
    | '\x22' :: opened => do
      let (parts, rest) ← readParts opened
      let name := joinParts parts
      match skipSpace rest with
      | ':' :: rest =>
        let (value, rest) ← readValue fuel (skipSpace rest)
        match skipSpace rest with
        | '\x7d' :: left => return ([(name, value)], left)
        | ',' :: more =>
          let (members, left) ← readMembers fuel (skipSpace more)
          return ((name, value) :: members, left)
        | _ => none
      | _ => none
    | _ => none

end

/-- The value that a whole text stands for. -/
def parse? (text : Text) : Option Json := do
  let (value, rest) ← readValue (2 * text.length + 1) (skipSpace text)
  if (skipSpace rest).isEmpty then return value else none

end ComponentServer.Json
