import ComponentServer.Text.Basic

/-!
Variable-length numbers in base 64. A number is doubled, its lowest bit is the sign, and its digits
are written five bits at a time, least first, each but the last marked by the sixth bit.
-/

namespace ComponentServer.SourceMap

/-- What can be wrong with a list of mappings. -/
inductive Fault where
  | unterminated
  | badDigit
  | overflow
  | tooManyFields
  | fieldCount (count : Nat)
  | outOfRange
deriving DecidableEq, Repr

def Fault.message : Fault → String
  | unterminated => "unterminated value"
  | badDigit => "invalid base64 character"
  | overflow => "value overflows"
  | tooManyFields => "segment has more than five fields"
  | fieldCount count => "segment has " ++ toString count ++ " fields"
  | outOfRange => "negative or oversized value"

/-- A fault and the byte at which it is reported. -/
structure VlqError where
  position : Nat
  fault : Fault
deriving DecidableEq, Repr

def VlqError.message (error : VlqError) : String :=
  "invalid VLQ mapping at byte " ++ toString error.position ++ ": " ++ error.fault.message

namespace Vlq

/-- The value of a digit, from `A` for 0 to `/` for 63. -/
def digit? (c : Char) : Option Nat :=
  let n := c.toNat
  if 65 ≤ n ∧ n ≤ 90 then some (n - 65)
  else if 97 ≤ n ∧ n ≤ 122 then some (n - 71)
  else if 48 ≤ n ∧ n ≤ 57 then some (n + 4)
  else if n = 43 then some 62
  else if n = 47 then some 63
  else none

/-- The digit of a value below 64. -/
def digitChar (value : Nat) : Char :=
  if value < 26 then Char.ofNat (value + 65)
  else if value < 52 then Char.ofNat (value + 71)
  else if value < 62 then Char.ofNat (value - 4)
  else if value = 62 then '+'
  else '/'

def encodeNat (n : Nat) : Text :=
  if n < 32 then [digitChar n] else digitChar (n % 32 + 32) :: encodeNat (n / 32)
termination_by n
decreasing_by omega

/-- The digits of a number. -/
def encode (value : Int) : Text :=
  encodeNat (if value < 0 then 2 * value.natAbs + 1 else 2 * value.natAbs)

/-- The number that a sum of digits stands for, without a limit on its size. -/
def exactValue (total : Nat) : Int :=
  if total % 2 = 1 then -((total : Int) / 2) else (total : Int) / 2

/-- The number that a sum of digits stands for when the sum is kept in a signed word of 64 bits. -/
def value (total : Nat) : Int :=
  let word := Int.bmod total (1 <<< 64)
  if total % 2 = 1 then -(word / 2) else word / 2

/-- The most digits that a number may have. -/
def maxDigits : Nat := 13

/-- Reads a number that starts at byte `start`. So far `count` digits with the sum `total` have been
read, and the input goes on at byte `position`. -/
def read (start position count total : Nat) : Text → Except VlqError (Int × Nat × Text)
  | [] => .error ⟨start, .unterminated⟩
  | c :: rest =>
    match digit? c with
    | none => .error ⟨position, .badDigit⟩
    | some digit =>
      if maxDigits ≤ count then .error ⟨start, .overflow⟩
      else
        let sum := total + (digit % 32) <<< (5 * count)
        if digit < 32 then .ok (value sum, position + 1, rest)
        else read start (position + 1) (count + 1) sum rest

theorem length_read_lt {start position count total : Nat} {input rest : Text} {n : Int}
    {next : Nat} (h : read start position count total input = .ok (n, next, rest)) :
    rest.length < input.length := by
  induction input generalizing position count total with
  | nil => simp [read] at h
  | cons c tail ih =>
    simp only [read] at h
    split at h
    · simp at h
    · split at h
      · simp at h
      · split at h
        · simp only [Except.ok.injEq, Prod.mk.injEq] at h
          simp [← h.2.2]
        · have hlt := ih h
          simp only [List.length_cons]
          omega

end Vlq

end ComponentServer.SourceMap
