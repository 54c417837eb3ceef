import ComponentServer.Text.Mark

/-!
Directions of writing in the names of hosts. A name with a character that is written from right to
left is well formed when each label is written in one direction: that of its first character, up to
its last one but for marks.
-/

namespace ComponentServer.Domain

inductive Direction where
  | left
  | right
  /-- A letter of the Arabic kind, also written from right to left. -/
  | arabic
  /-- A digit of the Arabic kind. -/
  | arabicDigit
  | digit
  /-- A sign of a number. -/
  | sign
  /-- A separator in a number. -/
  | separator
  /-- What may stand around a number, such as a currency. -/
  | unit
  | neutral
  /-- A character that is not shown. -/
  | boundary
  | mark
deriving DecidableEq, Repr

namespace Direction

def rightPoints : List CodeRange := RangeTable.read
  "5BE 5C0 5C3 5C6 5D0-5F4 7C0-7EA 7F4-7F5 7FA 7FE-815 81A 824 828 830-858 85E 10800-1091B
    10920-10A00 10A10-10A35 10A40-10AE4 10AEB-10B35 10B40-10CFF 10D40-10D4F 10D6F-10D8F
    10E80-10EA9 10EAD-10EB1 10F00-10F27 10F70-10F81 10F86-10FF6 1E800-1E8CF 1E922-1E943
    1E94B-1E95F"

def arabicPoints : List CodeRange := RangeTable.read
  "608 60B 60D 61B-64A 66D-66F 671-6D5 6E5-6E6 6EE-6EF 6FA-710 712-72F 74D-7A5 7B1 860-88E 8A0-8C9
    FBB2-FBC2 FE73 10D00-10D23 10EC2-10EC4 10F30-10F45 10F51-10F59 1EC71-1ED3D"

def arabicDigitPoints : List CodeRange := RangeTable.read
  "660-669 66B-66C 10D30-10D39 10E60-10E7E"

def digitPoints : List CodeRange := RangeTable.read
  "6F0-6F9 102E1-102FB"

def signPoints : List CodeRange := RangeTable.read
  "2212"

def separatorPoints : List CodeRange := RangeTable.read
  "60C 2044"

def unitPoints : List CodeRange := RangeTable.read
  "A2-A5 B0-B1 58F 609-60A 66A 9F2-9F3 9FB AF1 BF9 E3F 17DB 2030-2032 20A0-20C0 212E 2213
    A838-A839 11FDD-11FE0 1E2FF"

def neutralPoints : List CodeRange := RangeTable.read
  "A1 A6-AE B6-D7 F7 2B9-2BA 2C2-2CF 2D2-2ED 2EF-2FF 375 3F6 58A-58E 606-607 60E-60F 6DE 6E9
    7F6-7F9 BF3-BF8 BFA C78-C7E F3A-F3D 1390-1399 1400 169B-169C 17F0-180A 1940-1945 19DE-19FF
    2010-2027 2035-2043 2045-205E 2104-2129 213A-214D 218A-2211 2214-2335 237B-2394 2396-26AB
    26AD-27FF 2900-2BFF 2CE5-2CEA 2CF9-2CFF 2E00-3004 3008-3020 3030 3037 303D-303F 30A0 30FB
    31C0-31E5 4DC0-4DFF A490-A4C6 A60D-A60F A673 A67E-A67F A700-A721 A788 A828-A82B A874-A877
    AB6A-AB6B FD3E-FDFF FE45-FE46 10101 10140-1018C 10190-101A0 1091F 10B39-10B3F 10D6E
    11052-11065 11660-1166C 11FD5-11FDC 11FE1-11FF1 16FE2 1CC00-1CEB3 1D1E9-1D241 1D245
    1D300-1D356 1EEF0-1F12F 1F16D-1F16F 1F1AD 1F260-1FBEF"

def boundaryPoints : List CodeRange := RangeTable.read
  "200C-200D"

/-- The tables of the directions; a character in none of them is a mark or written from left to
right. -/
def tables : List (Direction × List CodeRange) :=
  [(.right, rightPoints), (.arabic, arabicPoints), (.arabicDigit, arabicDigitPoints),
    (.digit, digitPoints), (.sign, signPoints), (.separator, separatorPoints), (.unit, unitPoints),
    (.neutral, neutralPoints), (.boundary, boundaryPoints)]

/-- The direction of an ASCII character. -/
def ofAscii (c : Char) : Direction :=
  if c.isAlpha then .left
  else if c.isDigit then .digit
  else if c == '+' || c == '-' then .sign
  else if c == ',' || c == '.' || c == '/' || c == ':' then .separator
  else if c == '#' || c == '$' || c == '%' then .unit
  else .neutral

def ofChar (c : Char) : Direction :=
  if c.toNat < 0x80 then ofAscii c
  else if isPlainMark c then .mark
  else ((tables.find? fun entry => RangeTable.contains entry.2 c).map Prod.fst).getD .left

/-- Whether a character of this direction makes the labels of a name subject to the rules. -/
def isRightward (direction : Direction) : Bool :=
  direction == .right || direction == .arabic || direction == .arabicDigit

/-- Whether characters of this direction may stand in labels of both directions. -/
def isCommon (direction : Direction) : Bool :=
  !(direction.isRightward || direction == .left)

end Direction

/-- The direction of the last character that is no mark. -/
def closing? (directions : List Direction) : Option Direction :=
  (directions.reverse.dropWhile (· == .mark)).head?

/-- Whether a label is written from left to right. -/
def runsFromLeft (directions : List Direction) : Bool :=
  directions.all (fun direction => direction == .left || direction.isCommon) &&
    (closing? directions).any fun last => last == .left || last == .digit

/-- Whether a label is written from right to left, with digits of one kind. -/
def runsFromRight (directions : List Direction) : Bool :=
  directions.all (fun direction => direction.isRightward || direction.isCommon) &&
    ((closing? directions).any fun last => last.isRightward || last == .digit) &&
    !(directions.contains .digit && directions.contains .arabicDigit)

def isDirected (label : Text) : Bool :=
  let directions := label.map Direction.ofChar
  match directions with
  | [] => true
  | .left :: _ => runsFromLeft directions
  | .right :: _ => runsFromRight directions
  | .arabic :: _ => runsFromRight directions
  | _ => false

/-- Whether the labels of a name have directions that go together. -/
def areDirected (labels : List Text) : Bool :=
  !(labels.any fun label => label.any fun c => (Direction.ofChar c).isRightward) ||
    labels.all isDirected

end ComponentServer.Domain
