import ComponentServer.Domain.Name
import ComponentServer.Uri.Percent

/-!
Hosts of URIs: names, and numeric addresses of four or sixteen bytes.
-/

namespace ComponentServer.Host

/-- A character that no host may hold. -/
def isForbidden (c : Char) : Bool :=
  c == '\x00' || c == '\t' || c == '\n' || c == '\r' || c == ' ' || c == '#' || c == '/' ||
    c == ':' || c == '<' || c == '>' || c == '?' || c == '@' || c == '[' || c == '\\' || c == ']' ||
    c == '^' || c == '|'

def digitsIn? (base : Nat) (digits : Text) : Option Nat :=
  digits.foldlM (fun n c => do
    let d ← Percent.hexValue? c
    if d < base then some (base * n + d) else none) 0

/-- A number of an address: hexadecimal behind `0x`, octal behind `0`, otherwise decimal. -/
def number? : Text → Option Nat
  | [] => none
  | '0' :: 'x' :: digits => digitsIn? 16 digits
  | '0' :: 'X' :: digits => digitsIn? 16 digits
  | ['0'] => some 0
  | '0' :: digits => digitsIn? 8 digits
  | digits => digitsIn? 10 digits

/-- The parts between the dots, without an empty one at the end. -/
def labels (name : Text) : List Text :=
  let parts := Text.splitAt '.' name
  if parts.length > 1 ∧ parts.getLast? = some [] then parts.dropLast else parts

/-- Whether the last part of a name makes it an address. -/
def endsInNumber (name : Text) : Bool :=
  match (labels name).getLast? with
  | some part => (!part.isEmpty && part.all Char.isDigit) ||
      (Text.lower (part.take 2) == ['0', 'x'] && (number? part).isSome)
  | none => false

/-- The value of an address whose last number fills the bytes that are left. -/
def address4? (name : Text) : Option Nat := do
  let parts := labels name
  if parts.length > 4 then none
  let numbers ← parts.mapM number?
  let last ← numbers.getLast?
  let first := numbers.dropLast
  if first.any (255 < ·) || 1 <<< (8 * (4 - first.length)) ≤ last then none
  return first.zipIdx.foldl (fun address entry => address + entry.1 <<< (8 * (3 - entry.2))) last

def render4 (n : Nat) : Text :=
  List.intercalate ['.'] ([24, 16, 8, 0].map fun place => Text.ofNat (n >>> place % 256))

/-- Groups of an address of sixteen bytes: up to four hexadecimal digits each, the last of which may
be an address of four bytes in decimal. -/
def groups? (text : Text) : Option (List Nat) :=
  if text.isEmpty then some []
  else
    let parts := Text.splitAt ':' text
    let whole := fun part : Text =>
      if part.isEmpty ∨ 4 < part.length then none else digitsIn? 16 part
    let last := parts.getLastD []
    if last.contains '.' then do
      let bytes ← (Text.splitAt '.' last).mapM fun part =>
        if part.isEmpty ∨ 3 < part.length ∨ (1 < part.length ∧ part.head? = some '0') then none
        else (digitsIn? 10 part).bind fun n => if n < 256 then some n else none
      let front ← parts.dropLast.mapM whole
      match bytes with
      | [a, b, c, d] => return front ++ [256 * a + b, 256 * c + d]
      | _ => none
    else parts.mapM whole

/-- The eight groups of an address; `::` stands for at least one group of zeros. -/
def address6? (text : Text) : Option (List Nat) :=
  match Text.cut? [':', ':'] text with
  | none => (groups? text).bind fun groups => if groups.length = 8 then some groups else none
  | some (front, back) => do
    let front ← groups? front
    let back ← groups? (back.drop 2)
    if 7 < front.length + back.length then none
    return front ++ List.replicate (8 - front.length - back.length) 0 ++ back

def renderGroup (n : Nat) : Text := Nat.toDigits 16 n

/-- The length of the run of zeros at the head. -/
def zeros (groups : List Nat) : Nat := (groups.takeWhile (· == 0)).length

/-- The longest run of zeros, if it has more than one group: its start and its length. -/
def longestZeros (groups : List Nat) : Option (Nat × Nat) :=
  let runs := (List.range 8).map fun start => (start, zeros (groups.drop start))
  let best := runs.foldl (fun best run => if best.2 < run.2 then run else best) (0, 1)
  if 1 < best.2 then some best else none

def renderGroups (groups : List Nat) : Text :=
  List.intercalate [':'] (groups.map renderGroup)

def render6 (groups : List Nat) : Text :=
  match longestZeros groups with
  | none => renderGroups groups
  | some (start, length) =>
    renderGroups (groups.take start) ++ [':', ':'] ++ renderGroups (groups.drop (start + length))

/-- An address in brackets. -/
def bracketed? (inner : Text) : Option Text := do
  if inner.getLast? != some ']' then none
  let groups ← address6? inner.dropLast
  return '[' :: render6 groups ++ [']']

/-- The host of a scheme with known names: a name in ASCII, or an address. -/
def ofName? (text : Text) : Option Text :=
  match text with
  | '[' :: inner => bracketed? inner
  | _ => do
    let name ← (Utf8.read? (Percent.decode text)).bind Domain.toAscii?
    if name.isEmpty then none
    if endsInNumber name then
      let n ← address4? name
      return render4 n
    return name

/-- The host of any other scheme, kept as it is. -/
def ofOpaque? (text : Text) : Option Text :=
  match text with
  | '[' :: inner => bracketed? inner
  | _ => if text.any isForbidden then none else some (Percent.encode (fun _ => false) text)

end ComponentServer.Host
