import ComponentServer.Markup.StartTag
import ComponentServer.Text.Utf8

/-!
The document as it is read. All offsets count bytes from the start of the document, and every search
starts at an offset. Loops go from byte to byte; what they look for is ASCII, and no byte of another
character looks like ASCII.
-/

namespace ComponentServer.Markup

/-- A document and its bytes. -/
structure Input where
  text : Text
  bytes : Array UInt8
  bytes_eq : bytes = text.utf8.toArray

namespace Input

def of (text : Text) : Input := ⟨text, text.utf8.toArray, rfl⟩

variable (input : Input)

def length : Nat := input.bytes.size

/-- The byte at an offset, as the character of its number. -/
def peek? (offset : Nat) : Option Char := (input.bytes[offset]?).map Char.ofUInt8

theorem lt_length_of_peek? {input : Input} {offset : Nat} {c : Char}
    (h : input.peek? offset = some c) : offset < input.length := by
  obtain ⟨byte, hbyte, -⟩ := Option.map_eq_some_iff.mp h
  exact (Array.getElem?_eq_some_iff.mp hbyte).1

def slice (start stop : Nat) : Text := input.text.slice ⟨start, stop⟩

def startsWith (needle : Text) (offset : Nat) : Bool :=
  needle.isPrefixOf (input.text.dropBytes offset)

def isAlphaAt (offset : Nat) : Bool := (input.peek? offset).any Char.isAlpha

/-- Where `needle` next occurs. -/
def find? (needle : Text) (offset : Nat) : Option Nat :=
  (Text.cut? needle (input.text.dropBytes offset)).map fun halves => offset + halves.1.size

/-- Where `needle` next occurs, letters compared without case. -/
def findIgnoringCase? (needle : Text) (offset : Nat) : Option Nat :=
  (Text.cutIgnoringCase? needle (input.text.dropBytes offset)).map fun halves =>
    offset + halves.1.size

/-- Behind the next `mark`, or the end when there is none. -/
def through (mark : Char) (offset : Nat) : Nat :=
  ((input.find? [mark] offset).map (· + 1)).getD input.length

/-- Passes over the bytes that the test holds of. -/
def skip (test : Char → Bool) (offset : Nat) : Nat :=
  match h : input.peek? offset with
  | none => offset
  | some c => if test c then skip test (offset + 1) else offset
termination_by input.length - offset
decreasing_by
  have hlt := lt_length_of_peek? h
  omega

theorem skip_of_peek? {input : Input} {offset : Nat} {c : Char}
    (h : input.peek? offset = some c) (test : Char → Bool) :
    input.skip test offset = if test c then input.skip test (offset + 1) else offset := by
  rw [skip]
  split <;> simp_all

theorem skip_of_peek?_eq_none {input : Input} {offset : Nat} (h : input.peek? offset = none)
    (test : Char → Bool) : input.skip test offset = offset := by
  rw [skip]
  split <;> simp_all

/-- The quote that ends a literal. A backslash hides the byte behind it, which may lead past the
end. -/
def closingQuote (quote : Char) (offset : Nat) : Nat :=
  match h : input.peek? offset with
  | none => offset
  | some c =>
    if c = quote then offset
    else if c = '\\' then closingQuote quote (offset + 2)
    else closingQuote quote (offset + 1)
termination_by input.length - offset
decreasing_by
  all_goals
    have hlt := lt_length_of_peek? h
    omega

theorem closingQuote_of_peek? {input : Input} {offset : Nat} {c : Char}
    (h : input.peek? offset = some c) (quote : Char) :
    input.closingQuote quote offset =
      if c = quote then offset
      else if c = '\\' then input.closingQuote quote (offset + 2)
      else input.closingQuote quote (offset + 1) := by
  rw [closingQuote]
  split <;> simp_all

theorem closingQuote_of_peek?_eq_none {input : Input} {offset : Nat}
    (h : input.peek? offset = none) (quote : Char) : input.closingQuote quote offset = offset := by
  rw [closingQuote]
  split <;> simp_all

theorem le_closingQuote (quote : Char) (offset : Nat) :
    offset ≤ input.closingQuote quote offset := by
  fun_induction input.closingQuote quote offset <;> omega

/-- Behind what closes a braced group that is open `depth` deep, or the end when nothing does. -/
def groupEnd (depth offset : Nat) : Nat :=
  match h : input.peek? offset with
  | none => input.length
  | some c =>
    if c = '\x7b' then groupEnd (depth + 1) (offset + 1)
    else if c = '\x7d' then
      if depth - 1 = 0 then offset + 1 else groupEnd (depth - 1) (offset + 1)
    else if isQuote c then groupEnd depth (input.closingQuote c (offset + 1) + 1)
    else groupEnd depth (offset + 1)
termination_by input.length - offset
decreasing_by
  · have hlt := lt_length_of_peek? h
    omega
  · have hlt := lt_length_of_peek? h
    omega
  · have hlt := lt_length_of_peek? h
    have hle := input.le_closingQuote c (offset + 1)
    omega
  · have hlt := lt_length_of_peek? h
    omega

theorem groupEnd_of_peek? {input : Input} {offset : Nat} {c : Char}
    (h : input.peek? offset = some c) (depth : Nat) :
    input.groupEnd depth offset =
      if c = '\x7b' then input.groupEnd (depth + 1) (offset + 1)
      else if c = '\x7d' then
        if depth - 1 = 0 then offset + 1 else input.groupEnd (depth - 1) (offset + 1)
      else if isQuote c then input.groupEnd depth (input.closingQuote c (offset + 1) + 1)
      else input.groupEnd depth (offset + 1) := by
  rw [groupEnd]
  split <;> simp_all

theorem groupEnd_of_peek?_eq_none {input : Input} {offset : Nat}
    (h : input.peek? offset = none) (depth : Nat) :
    input.groupEnd depth offset = input.length := by
  rw [groupEnd]
  split <;> simp_all

/-! Whatever is searched for, the search does not go back. -/

theorem le_skip (test : Char → Bool) (offset : Nat) : offset ≤ input.skip test offset := by
  fun_induction input.skip test offset <;> omega

theorem le_of_find? {input : Input} {needle : Text} {offset found : Nat}
    (h : input.find? needle offset = some found) : offset ≤ found := by
  obtain ⟨halves, -, rfl⟩ := Option.map_eq_some_iff.mp h
  exact Nat.le_add_right _ _

theorem le_of_findIgnoringCase? {input : Input} {needle : Text} {offset found : Nat}
    (h : input.findIgnoringCase? needle offset = some found) : offset ≤ found := by
  obtain ⟨halves, -, rfl⟩ := Option.map_eq_some_iff.mp h
  exact Nat.le_add_right _ _

theorem lt_through {start offset : Nat} (hle : start ≤ offset) (hlt : start < input.length)
    (mark : Char) : start < input.through mark offset := by
  unfold through
  cases hfound : input.find? [mark] offset with
  | none => exact hlt
  | some found =>
    have hbehind := le_of_find? hfound
    simp only [Option.map_some, Option.getD_some]
    omega

theorem lt_groupEnd (depth : Nat) {start offset : Nat} (hle : start ≤ offset)
    (hlt : start < input.length) : start < input.groupEnd depth offset := by
  fun_induction input.groupEnd depth offset with
  | case1 => exact hlt
  | case2 depth offset hpeek ih => exact ih (by omega)
  | case3 depth offset _ _ hpeek => omega
  | case4 depth offset _ _ hpeek ih => exact ih (by omega)
  | case5 depth offset c hpeek _ _ _ ih =>
    have hclosing := input.le_closingQuote c (offset + 1)
    exact ih (by omega)
  | case6 depth offset c hpeek _ _ _ ih => exact ih (by omega)

end Input

end ComponentServer.Markup
