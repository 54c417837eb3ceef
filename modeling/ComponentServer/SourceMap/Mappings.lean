import ComponentServer.SourceMap.Vlq

/-!
The mappings of a source map: for each line of the generated text the marks on it. A mark says where
in which source the text behind it came from, or only where the stretch of the mark before it ends.
In their text form lines are separated by `;` and marks by `,`, and every number is written as the
difference from its predecessor.
-/

namespace ComponentServer.SourceMap

structure SourcePoint where
  source : Nat
  line : Nat
  column : Nat
deriving DecidableEq, Repr

structure Mark where
  column : Nat
  point : Option SourcePoint
deriving DecidableEq, Repr

/-- The marks of every generated line. -/
abbrev Mappings := List (List Mark)

/-- The sums that the differences of the next mark are added to. -/
structure Sums where
  column : Int
  source : Int
  line : Int
  sourceColumn : Int
deriving DecidableEq, Repr

namespace Sums

def zero : Sums := ⟨0, 0, 0, 0⟩

/-- Columns start over on every line. -/
def newLine (sums : Sums) : Sums := { sums with column := 0 }

/-- The sum, if it fits a signed word of 64 bits. -/
def plus (position : Nat) (total difference : Int) : Except VlqError Int :=
  if -(1 <<< 63) ≤ total + difference ∧ total + difference < 1 <<< 63 then .ok (total + difference)
  else .error ⟨position, .overflow⟩

/-- The number, if it fits an unsigned word of 32 bits. -/
def word (position : Nat) (total : Int) : Except VlqError Nat :=
  if 0 ≤ total ∧ total < 1 <<< 32 then .ok total.toNat else .error ⟨position, .outOfRange⟩

/-- The place that the sums have reached. -/
def point (sums : Sums) (position : Nat) : Except VlqError SourcePoint := do
  let source ← word position sums.source
  let line ← word position sums.line
  let column ← word position sums.sourceColumn
  return ⟨source, line, column⟩

/-- Adds the three differences of a place. -/
def advance (sums : Sums) (position : Nat) (source line column : Int) : Except VlqError Sums := do
  let source ← plus position sums.source source
  let line ← plus position sums.line line
  let column ← plus position sums.sourceColumn column
  return ⟨sums.column, source, line, column⟩

/-- The mark of a segment's fields, and the sums behind it. A name's field is read and left out. -/
def mark (sums : Sums) (position : Nat) (fields : List Int) : Except VlqError (Sums × Mark) := do
  let column ← plus position sums.column (fields.headD 0)
  let moved : Sums := { sums with column := column }
  match fields with
  | [_] =>
    let column ← word position column
    return (moved, ⟨column, none⟩)
  | _ :: source :: line :: sourceColumn :: _ =>
    let moved ← moved.advance position source line sourceColumn
    let point ← moved.point position
    let column ← word position column
    return (moved, ⟨column, some point⟩)
  | _ => throw ⟨position, .fieldCount fields.length⟩

end Sums

def isSeparator (c : Char) : Bool := c == ',' || c == ';'

/-- Reads the fields of the segment that starts at byte `start`, at most `room` more of them. -/
def readFields (start : Nat) : Nat → Nat → Text → Except VlqError (List Int × Nat × Text)
  | _, position, [] => .ok ([], position, [])
  | room, position, c :: rest =>
    if isSeparator c then .ok ([], position, c :: rest)
    else
      match room with
      | 0 => .error ⟨start, .tooManyFields⟩
      | room + 1 =>
        match Vlq.read position position 0 0 (c :: rest) with
        | .error error => .error error
        | .ok (field, next, remaining) =>
          match readFields start room next remaining with
          | .error error => .error error
          | .ok (fields, stop, others) => .ok (field :: fields, stop, others)

theorem length_readFields_le {start room position : Nat} {input rest : Text} {fields : List Int}
    {next : Nat} (h : readFields start room position input = .ok (fields, next, rest)) :
    rest.length ≤ input.length := by
  induction room generalizing position input rest fields next with
  | zero =>
    cases input with
    | nil => simp_all [readFields]
    | cons c tail =>
      by_cases hc : isSeparator c = true
      · simp [readFields, hc] at h
        simp [← h.2.2]
      · simp [readFields, hc] at h
  | succ room ih =>
    cases input with
    | nil => simp_all [readFields]
    | cons c tail =>
      by_cases hc : isSeparator c = true
      · simp [readFields, hc] at h
        simp [← h.2.2]
      · simp only [readFields, hc, Bool.false_eq_true, if_false] at h
        split at h
        · simp at h
        · next field after remaining hread =>
          split at h
          · simp at h
          · next others stop last hfields =>
            simp only [Except.ok.injEq, Prod.mk.injEq] at h
            have hlt := Vlq.length_read_lt hread
            have hle := ih hfields
            rw [← h.2.2]
            omega

theorem length_readFields_lt {start room position : Nat} {c : Char} {tail rest : Text}
    {fields : List Int} {next : Nat} (hc : isSeparator c = false)
    (h : readFields start room position (c :: tail) = .ok (fields, next, rest)) :
    rest.length < (c :: tail).length := by
  cases room with
  | zero => simp [readFields, hc] at h
  | succ room =>
    simp only [readFields, hc, Bool.false_eq_true, if_false] at h
    split at h
    · simp at h
    · next field after remaining hread =>
      split at h
      · simp at h
      · next others stop last hfields =>
        simp only [Except.ok.injEq, Prod.mk.injEq] at h
        have hlt := Vlq.length_read_lt hread
        have hle := length_readFields_le hfields
        rw [← h.2.2]
        omega

/-- Decodes what stands from byte `position` on; `line` are the marks already read on its line. -/
def decodeFrom (sums : Sums) (position : Nat) (line : List Mark) : Text → Except VlqError Mappings
  | [] => .ok [line]
  | c :: rest =>
    if hc : isSeparator c = true then
      if c = ';' then
        match decodeFrom sums.newLine (position + 1) [] rest with
        | .error error => .error error
        | .ok others => .ok (line :: others)
      else decodeFrom sums (position + 1) line rest
    else
      match _hread : readFields position 5 position (c :: rest) with
      | .error error => .error error
      | .ok (fields, next, remaining) =>
        match sums.mark position fields with
        | .error error => .error error
        | .ok (moved, mark) => decodeFrom moved next (line ++ [mark]) remaining
termination_by text => text.length
decreasing_by
  · simp
  · simp
  · exact length_readFields_lt (by simpa using hc) _hread

/-- Decodes the text form of mappings. -/
def decode (text : Text) : Except VlqError Mappings := decodeFrom .zero 0 [] text

end ComponentServer.SourceMap
