import ComponentServer.Toml.Value

/-!
Numbers, dates and strings of TOML.
-/

namespace ComponentServer.Toml

def isSpace (c : Char) : Bool := c == ' ' || c == '\t'

/-- A character that may stand in a comment or a literal: a tab, or anything but a control
character. -/
def isPlain (c : Char) : Bool := c == '\t' || (0x20 ≤ c.toNat && c.toNat != 0x7F)

/-- Digits with single underscores between them. -/
def isDigits (isDigit : Char → Bool) : Text → Bool
  | [] => false
  | [c] => isDigit c
  | c :: '_' :: rest => isDigit c && isDigits isDigit rest
  | c :: rest => isDigit c && isDigits isDigit rest

def withoutSign : Text → Text
  | '+' :: rest => rest
  | '-' :: rest => rest
  | token => token

def digitValue (c : Char) : Nat :=
  if c.isDigit then c.toNat - 48 else if c.isUpper then c.toNat - 55 else c.toNat - 87

/-- The number that digits stand for, underscores left out. -/
def digitsValue (base : Nat) (digits : Text) : Nat :=
  (digits.filter (· != '_')).foldl (fun n c => base * n + digitValue c) 0

/-- A whole number without a needless zero in front. -/
def isWhole (digits : Text) : Bool :=
  isDigits Char.isDigit digits && (digits.length == 1 || digits.head? != some '0')

def isHex (c : Char) : Bool :=
  c.isDigit || ('a' ≤ c && c ≤ 'f') || ('A' ≤ c && c ≤ 'F')

/-- A number with the digits of its base that fits a signed word of 64 bits. -/
def isBased (base : Nat) (isDigit : Char → Bool) (digits : Text) : Bool :=
  isDigits isDigit digits && decide (digitsValue base digits < 1 <<< 63)

def isDecimal (token : Text) : Bool :=
  let digits := withoutSign token
  let limit := if token.head? = some '-' then 1 <<< 63 + 1 else 1 <<< 63
  isWhole digits && decide (digitsValue 10 digits < limit)

def isInteger : Text → Bool
  | '0' :: 'x' :: digits => isBased 16 isHex digits
  | '0' :: 'o' :: digits => isBased 8 (fun c => '0' ≤ c && c ≤ '7') digits
  | '0' :: 'b' :: digits => isBased 2 (fun c => c == '0' || c == '1') digits
  | token => isDecimal token

def isExponentMark (c : Char) : Bool := c == 'e' || c == 'E'

/-- The parts of a number with a fraction or an exponent: whole digits, digits of the fraction, and
the exponent with its sign. -/
structure Decimal where
  whole : Text
  fraction : Option Text
  exponent : Option Text

def Decimal.ofToken (token : Text) : Decimal :=
  let number := withoutSign token
  let mantissa := number.takeWhile (!isExponentMark ·)
  let exponent := (number.dropWhile (!isExponentMark ·)).tail?
  let whole := mantissa.takeWhile (· != '.')
  ⟨whole, (mantissa.dropWhile (· != '.')).tail?, exponent⟩

/-- Whether a decimal lies above the greatest double, which has 309 digits. -/
def Decimal.overflows (decimal : Decimal) : Bool :=
  let fraction := (decimal.fraction.getD []).filter (· != '_')
  let digits := digitsValue 10 (decimal.whole ++ fraction)
  let exponent := decimal.exponent.getD []
  let size := digitsValue 10 (withoutSign exponent)
  let limit := 1 <<< 1024 - 1 <<< 970
  if digits = 0 then false
  else if exponent.head? = some '-' then
    decide (limit * Nat.pow 10 (fraction.length + min size 400) ≤ digits) && decide (size ≤ 400)
  else
    decide (limit * Nat.pow 10 fraction.length ≤
      digits * Nat.pow 10 (min size (fraction.length + 400)))

def isSpecialFloat (token : Text) : Bool :=
  withoutSign token == ['i', 'n', 'f'] || withoutSign token == ['n', 'a', 'n']

/-- A number with a fraction or an exponent; a positive one must be finite. -/
def isFloat (token : Text) : Bool :=
  let decimal := Decimal.ofToken token
  isWhole decimal.whole && (decimal.fraction.isSome || decimal.exponent.isSome) &&
    decimal.fraction.all (isDigits Char.isDigit) &&
    decimal.exponent.all (fun exponent => isDigits Char.isDigit (withoutSign exponent)) &&
    (token.head? == some '-' || !decimal.overflows)

/-- Two digits, as a number. -/
def twoDigits? : Text → Option Nat
  | [a, b] => if a.isDigit && b.isDigit then some (digitsValue 10 [a, b]) else none
  | _ => none

def twoDigitsIn (least greatest : Nat) (digits : Text) : Bool :=
  (twoDigits? digits).any fun n => decide (least ≤ n) && decide (n ≤ greatest)

def isLeapYear (year : Nat) : Bool := year % 4 == 0 && (year % 100 != 0 || year % 400 == 0)

def daysIn (year month : Nat) : Nat :=
  if month = 2 then (if isLeapYear year then 29 else 28)
  else if month = 4 ∨ month = 6 ∨ month = 9 ∨ month = 11 then 30
  else 31

/-- A day of the calendar. -/
def isDate : Text → Bool
  | [a, b, c, d, '-', e, f, '-', g, h] =>
    [a, b, c, d].all Char.isDigit && twoDigitsIn 1 12 [e, f] &&
      twoDigitsIn 1 (daysIn (digitsValue 10 [a, b, c, d]) (digitsValue 10 [e, f])) [g, h]
  | _ => false

/-- Hours and minutes. -/
def isHourMinute : Text → Bool
  | [a, b, ':', c, d] => twoDigitsIn 0 23 [a, b] && twoDigitsIn 0 59 [c, d]
  | _ => false

/-- A time of day, with seconds and perhaps a fraction of one. -/
def isTime (token : Text) : Bool :=
  isHourMinute (token.take 5) &&
    match token.drop 5 with
    | ':' :: e :: f :: rest =>
      twoDigitsIn 0 60 [e, f] &&
        match rest with
        | [] => true
        | '.' :: digits => !digits.isEmpty && digits.all Char.isDigit
        | _ => false
    | _ => false

/-- A time of day that may have an offset from universal time. -/
def isZonedTime (token : Text) : Bool :=
  let inClock := fun c => !(c == 'Z' || c == 'z' || c == '+' || c == '-')
  isTime (token.takeWhile inClock) &&
    match token.dropWhile inClock with
    | [] => true
    | [c] => c == 'Z' || c == 'z'
    | c :: offset => (c == '+' || c == '-') && isHourMinute offset

/-- A date, a time of day, or both joined by a `T`. -/
def isDateTime (token : Text) : Bool :=
  isDate token || isTime token ||
    match token.drop 10 with
    | c :: time => isDate (token.take 10) && (c == 'T' || c == 't') && isZonedTime time
    | [] => false

/-- The value of a word that is no string. -/
def scalar? (token : Text) : Option Value :=
  if token = "true".toList then some (.bool true)
  else if token = "false".toList then some (.bool false)
  else if isInteger token || isFloat token || isSpecialFloat token then some .number
  else if isDateTime token then some .date
  else none

/-- A character that may be part of a number, a date or a word. -/
def inToken (c : Char) : Bool :=
  !(isSpace c || c == ',' || c == ']' || c == '\x7d' || c == '#' || c == '\n' || c == '\r')

/-- Reads a number, a date or a word. A date may be followed by a space and a time of day. -/
def readScalar (input : Text) : Option (Value × Text) :=
  let token := input.takeWhile inToken
  let rest := input.dropWhile inToken
  match rest with
  | ' ' :: more =>
    if isDate token && isZonedTime (more.takeWhile inToken) then
      some (.date, more.dropWhile inToken)
    else (scalar? token).map fun value => (value, rest)
  | _ => (scalar? token).map fun value => (value, rest)

def hexValue? (digits : Text) : Option Nat :=
  if digits.all isHex then some (digitsValue 16 digits) else none

/-- The character of a code point. -/
def charOf? (n : Nat) : Option Char := if n.isValidChar then some (Char.ofNat n) else none

/-- The character of a short escape. -/
def escape? (c : Char) : Option Char :=
  if c = 'b' then some '\x08'
  else if c = 't' then some '\t'
  else if c = 'n' then some '\n'
  else if c = 'f' then some '\x0c'
  else if c = 'r' then some '\r'
  else if c = '\x22' then some c
  else if c = '\\' then some c
  else none

/-- Puts a character in front of what a reader of strings gave. -/
def consChar (c : Option Char) (read : Option (Text × Text)) : Option (Text × Text) := do
  let c ← c
  let (text, rest) ← read
  return (c :: text, rest)

/-- Reads the rest of a string in double quotes. -/
def readBasic : Text → Option (Text × Text)
  | [] => none
  | '\x22' :: rest => some ([], rest)
  | '\\' :: 'u' :: a :: b :: c :: d :: rest =>
    consChar ((hexValue? [a, b, c, d]).bind charOf?) (readBasic rest)
  | '\\' :: 'U' :: a :: b :: c :: d :: e :: f :: g :: h :: rest =>
    consChar ((hexValue? [a, b, c, d, e, f, g, h]).bind charOf?) (readBasic rest)
  | '\\' :: c :: rest => consChar (escape? c) (readBasic rest)
  | c :: rest => if isPlain c && c != '\\' then consChar (some c) (readBasic rest) else none

/-- Reads the rest of a string in single quotes. -/
def readLiteral : Text → Option (Text × Text)
  | [] => none
  | '\x27' :: rest => some ([], rest)
  | c :: rest => if isPlain c then consChar (some c) (readLiteral rest) else none

/-- The end of a string over several lines, behind three quotes: up to two more quotes belong to the
string. -/
def endOfLines (quote : Char) : Text → Text × Text
  | c :: d :: rest =>
    if c = quote ∧ d = quote then ([quote, quote], rest)
    else if c = quote then ([quote], d :: rest)
    else ([], c :: d :: rest)
  | [c] => if c = quote then ([quote], []) else ([], [c])
  | [] => ([], [])

/-- Whether a backslash in front of this text ends its line. -/
def endsLine (input : Text) : Bool :=
  match input.dropWhile isSpace with
  | '\n' :: _ => true
  | '\r' :: '\n' :: _ => true
  | _ => false

/-- Reads the rest of a string in three double quotes. While `skipping`, blanks and line ends are
left out, as behind a backslash at the end of a line. -/
def readBasicLines (skipping : Bool) : Text → Option (Text × Text)
  | [] => none
  | '\x22' :: '\x22' :: '\x22' :: rest => some (endOfLines '\x22' rest)
  | '\\' :: 'u' :: a :: b :: c :: d :: rest =>
    consChar ((hexValue? [a, b, c, d]).bind charOf?) (readBasicLines false rest)
  | '\\' :: 'U' :: a :: b :: c :: d :: e :: f :: g :: h :: rest =>
    consChar ((hexValue? [a, b, c, d, e, f, g, h]).bind charOf?) (readBasicLines false rest)
  | '\r' :: '\n' :: rest =>
    if skipping then readBasicLines true rest
    else consChar (some '\n') (readBasicLines false rest)
  | '\\' :: c :: rest =>
    if endsLine (c :: rest) then readBasicLines true (c :: rest)
    else consChar (escape? c) (readBasicLines false rest)
  | c :: rest =>
    if skipping && (isSpace c || c == '\n') then readBasicLines true rest
    else if c == '\n' || (isPlain c && c != '\\') then
      consChar (some c) (readBasicLines false rest)
    else none

/-- Reads the rest of a string in three single quotes. -/
def readLiteralLines : Text → Option (Text × Text)
  | [] => none
  | '\x27' :: '\x27' :: '\x27' :: rest => some (endOfLines '\x27' rest)
  | '\r' :: '\n' :: rest => consChar (some '\n') (readLiteralLines rest)
  | c :: rest =>
    if c == '\n' || isPlain c then consChar (some c) (readLiteralLines rest) else none

/-- Passes over a line end at the start of a string over several lines. -/
def dropLineEnd : Text → Text
  | '\n' :: rest => rest
  | '\r' :: '\n' :: rest => rest
  | input => input

/-- Reads a string of any of the four kinds. -/
def readString : Text → Option (Text × Text)
  | '\x22' :: '\x22' :: '\x22' :: rest => readBasicLines false (dropLineEnd rest)
  | '\x27' :: '\x27' :: '\x27' :: rest => readLiteralLines (dropLineEnd rest)
  | '\x22' :: rest => readBasic rest
  | '\x27' :: rest => readLiteral rest
  | _ => none

end ComponentServer.Toml
