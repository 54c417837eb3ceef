import ComponentServer.Markup.Input
import ComponentServer.Markup.Tree

/-!
Reading the markup of a document. The reader stands at an offset of the document, reads what starts
there, and records in the tree where it stood before and after. Reading never fails: what does not
end where it should goes on to the end of the document.
-/

namespace ComponentServer.Markup

namespace Input

variable (input : Input)

/-! ### Attributes -/

/-- Behind the value that starts at an offset: a quoted literal, a braced group, or all to a blank
or `>`. -/
def valueEnd (start : Nat) : Nat :=
  match input.peek? start with
  | none => start
  | some c =>
    if isQuote c then input.through c (start + 1)
    else if c = '\x7b' then input.groupEnd 0 start
    else input.skip (fun d => !(isTagBlank d || d == '>')) start

/-- The value that is assigned behind a name, and where it ends; without one the name ends it. -/
def assignment (nameEnd : Nat) : Option Text × Nat :=
  let sign := input.skip isTagBlank nameEnd
  if input.peek? sign = some '=' then
    let start := input.skip isTagBlank (sign + 1)
    (some (input.slice start (input.valueEnd start)), input.valueEnd start)
  else (none, nameEnd)

theorem le_valueEnd (start : Nat) : start ≤ input.valueEnd start := by
  unfold valueEnd
  split
  next => exact Nat.le_refl _
  next c hpeek =>
    have hlt := lt_length_of_peek? hpeek
    split
    · exact Nat.le_of_lt (input.lt_through (Nat.le_succ _) hlt c)
    · split
      · exact Nat.le_of_lt (input.lt_groupEnd 0 (Nat.le_refl _) hlt)
      · exact input.le_skip _ _

theorem le_assignment (nameEnd : Nat) : nameEnd ≤ (input.assignment nameEnd).2 := by
  have hsign := input.le_skip isTagBlank nameEnd
  have hstart := input.le_skip isTagBlank (input.skip isTagBlank nameEnd + 1)
  have hstop := input.le_valueEnd (input.skip isTagBlank (input.skip isTagBlank nameEnd + 1))
  simp only [assignment]
  split
  next =>
    simp only
    omega
  next => exact Nat.le_refl _

/-- The attributes of an opening tag, how the tag ends and where. -/
structure Tail where
  attributes : List Attribute
  ending : TagEnding
  stop : Nat

/-- Reads the part of an opening tag behind its name, the attributes in front of `offset` already
found. -/
def tagTail (found : List Attribute) (offset : Nat) : Tail :=
  let here := input.skip isTagBlank offset
  match h : input.peek? here with
  | none => ⟨found, .inputEnd, here⟩
  | some c =>
    if c = '>' then ⟨found, .bracket, here + 1⟩
    else if c = '/' then
      if input.peek? (here + 1) = some '>' then ⟨found, .slash, here + 2⟩
      else tagTail found (here + 1)
    else if c = '<' then ⟨found, .nextTag, here⟩
    else if c = '\x7b' then
      let stop := input.groupEnd 0 here
      tagTail (setAttribute found ⟨input.slice here stop, none⟩) stop
    else
      let nameEnd := input.skip TagBody.inName here
      if nameEnd = here then tagTail found (here + 1)
      else
        let value := input.assignment nameEnd
        tagTail (setAttribute found ⟨input.slice here nameEnd, value.1⟩) value.2
termination_by input.length - offset
decreasing_by
  all_goals
    have hlt := lt_length_of_peek? h
    have hle := input.le_skip isTagBlank offset
  · omega
  · have hgroup := input.lt_groupEnd 0 (Nat.le_refl (input.skip isTagBlank offset)) hlt
    exact Nat.sub_lt_sub_left (Nat.lt_of_le_of_lt hle hlt) (Nat.lt_of_le_of_lt hle hgroup)
  · omega
  · have hname := input.le_skip TagBody.inName (input.skip isTagBlank offset)
    have hvalue :=
      input.le_assignment (input.skip TagBody.inName (input.skip isTagBlank offset))
    have hbehind := Nat.lt_of_le_of_ne hname (Ne.symm ‹_›)
    exact Nat.sub_lt_sub_left (Nat.lt_of_le_of_lt hle hlt)
      (Nat.lt_of_le_of_lt hle (Nat.lt_of_lt_of_le hbehind hvalue))

theorem tagTail_of_peek? {input : Input} {offset : Nat} {c : Char}
    (h : input.peek? (input.skip isTagBlank offset) = some c) (found : List Attribute) :
    input.tagTail found offset =
      let here := input.skip isTagBlank offset
      if c = '>' then ⟨found, .bracket, here + 1⟩
      else if c = '/' then
        if input.peek? (here + 1) = some '>' then ⟨found, .slash, here + 2⟩
        else input.tagTail found (here + 1)
      else if c = '<' then ⟨found, .nextTag, here⟩
      else if c = '\x7b' then
        input.tagTail (setAttribute found ⟨input.slice here (input.groupEnd 0 here), none⟩)
          (input.groupEnd 0 here)
      else
        let nameEnd := input.skip TagBody.inName here
        if nameEnd = here then input.tagTail found (here + 1)
        else
          input.tagTail
            (setAttribute found ⟨input.slice here nameEnd, (input.assignment nameEnd).1⟩)
            (input.assignment nameEnd).2 := by
  rw [tagTail]
  split <;> simp_all

theorem tagTail_of_peek?_eq_none {input : Input} {offset : Nat}
    (h : input.peek? (input.skip isTagBlank offset) = none) (found : List Attribute) :
    input.tagTail found offset = ⟨found, .inputEnd, input.skip isTagBlank offset⟩ := by
  rw [tagTail]
  split <;> simp_all

theorem tagTail_congr {input : Input} {offset offset' : Nat}
    (h : input.skip isTagBlank offset = input.skip isTagBlank offset') (found : List Attribute) :
    input.tagTail found offset = input.tagTail found offset' := by
  cases hpeek : input.peek? (input.skip isTagBlank offset) with
  | none =>
    rw [tagTail_of_peek?_eq_none hpeek, h]
    rw [h] at hpeek
    rw [tagTail_of_peek?_eq_none hpeek]
  | some c =>
    rw [tagTail_of_peek? hpeek, h]
    rw [h] at hpeek
    rw [tagTail_of_peek? hpeek]

theorem le_tagTail (found : List Attribute) (offset : Nat) :
    offset ≤ (input.tagTail found offset).stop := by
  fun_induction input.tagTail found offset
  case case1 found offset here hpeek => exact input.le_skip isTagBlank offset
  case case2 found offset here hpeek =>
    exact Nat.le_trans (input.le_skip isTagBlank offset) (Nat.le_add_right _ _)
  case case3 found offset here hnext hpeek _ =>
    exact Nat.le_trans (input.le_skip isTagBlank offset) (Nat.le_add_right _ _)
  case case4 found offset here hnext hpeek _ ih =>
    exact Nat.le_trans (Nat.le_succ_of_le (input.le_skip isTagBlank offset)) ih
  case case5 found offset here hpeek _ _ => exact input.le_skip isTagBlank offset
  case case6 found offset here stop hpeek _ _ _ ih =>
    have hgroup := input.lt_groupEnd 0 (Nat.le_refl here) (lt_length_of_peek? hpeek)
    exact Nat.le_trans (input.le_skip isTagBlank offset) (Nat.le_trans (Nat.le_of_lt hgroup) ih)
  case case7 found offset here c hpeek _ _ _ _ nameEnd hempty ih =>
    exact Nat.le_trans (Nat.le_succ_of_le (input.le_skip isTagBlank offset)) ih
  case case8 found offset here c hpeek _ _ _ _ nameEnd hname value ih =>
    have hvalue : here ≤ value.2 :=
      Nat.le_trans (input.le_skip TagBody.inName here) (input.le_assignment nameEnd)
    exact Nat.le_trans (input.le_skip isTagBlank offset) (Nat.le_trans hvalue ih)

end Input

/-- Where the reader stands, and the tree so far. -/
structure Reader where
  offset : Nat
  builder : Builder

namespace Reader

variable (input : Input) (reader : Reader)

/-- Reads a run of text, which takes its first byte whatever it is and goes on to the next `<`. -/
def readText : Reader :=
  let stop := input.skip (· != '<') (reader.offset + 1)
  { offset := stop
    builder :=
      if (input.slice reader.offset stop).allBlank then reader.builder
      else reader.builder.append [.text ⟨reader.offset, stop⟩] }

def readComment : Reader :=
  match input.find? ['-', '-', '>'] (reader.offset + 4) with
  | some found => ⟨found + 3, reader.builder.append [.comment ⟨reader.offset, found + 3⟩ true]⟩
  | none => ⟨input.length, reader.builder.append [.comment ⟨reader.offset, input.length⟩ false]⟩

def readDeclaration : Reader :=
  let stop := input.through '>' reader.offset
  ⟨stop, reader.builder.append [.comment ⟨reader.offset, stop⟩ true]⟩

def readEndTag : Reader :=
  let nameEnd := input.skip StartTag.inName (reader.offset + 2)
  let stop := input.through '>' nameEnd
  ⟨stop, reader.builder.close (input.slice (reader.offset + 2) nameEnd) reader.offset stop⟩

/-- Reads the plain content that starts at `inner`, and the closing tag behind it. -/
def readRaw (head : Element) (inner : Nat) : Reader :=
  let outer? := input.findIgnoringCase? (['<', '/'] ++ head.tag.lower) inner
  let outer := outer?.getD input.length
  let stop := (outer?.map (input.through '>')).getD input.length
  let content : List Node := if inner < outer then [.text ⟨inner, outer⟩] else []
  let whole : Element :=
    { head with
      span := ⟨head.span.start, stop⟩
      endTagStart := outer?
      closed := outer?.isSome }
  ⟨stop, reader.builder.append [.element whole content]⟩

def readStartTag : Reader :=
  let nameEnd := input.skip StartTag.inName (reader.offset + 1)
  let name := input.slice (reader.offset + 1) nameEnd
  let tail := input.tagTail [] nameEnd
  let head : Element :=
    { tag := name
      attributes := tail.attributes
      span := ⟨reader.offset, tail.stop⟩
      startTagEnd := some tail.stop
      endTagStart := none
      closed := true
      selfClosing := tail.ending == .slash }
  if tail.ending = .inputEnd then
    let cutOff := { head with
      span := ⟨reader.offset, input.length⟩
      startTagEnd := none
      closed := false }
    ⟨tail.stop, reader.builder.append [.element cutOff []]⟩
  else if head.selfClosing || isVoidTag name then
    ⟨tail.stop, reader.builder.append [.element head []]⟩
  else if isRawTag name then reader.readRaw input head tail.stop
  else
    ⟨tail.stop, reader.builder.push
      { tag := name
        attributes := tail.attributes
        start := reader.offset
        startTagEnd := tail.stop
        children := [] }⟩

/-- Reads what starts where the reader stands. -/
def step : Reader :=
  let here := reader.offset
  if input.peek? here = some '<' then
    if input.startsWith ['<', '!', '-', '-'] here then reader.readComment input
    else if input.startsWith ['<', '/'] here && input.isAlphaAt (here + 2) then
      reader.readEndTag input
    else if input.startsWith ['<', '!'] here then reader.readDeclaration input
    else if input.isAlphaAt (here + 1) then reader.readStartTag input
    else reader.readText input
  else reader.readText input

theorem lt_offset_readRaw {input : Input} {reader : Reader} (head : Element) {inner : Nat}
    (hle : reader.offset ≤ inner) (hlt : reader.offset < input.length) :
    reader.offset < (reader.readRaw input head inner).offset := by
  simp only [readRaw]
  cases hfound : input.findIgnoringCase? (['<', '/'] ++ head.tag.lower) inner with
  | none => exact hlt
  | some outer =>
    have hbehind := Nat.le_trans hle (Input.le_of_findIgnoringCase? hfound)
    exact input.lt_through hbehind hlt _

theorem lt_offset_readStartTag {input : Input} {reader : Reader}
    (hlt : reader.offset < input.length) :
    reader.offset < (reader.readStartTag input).offset := by
  have hname := input.le_skip StartTag.inName (reader.offset + 1)
  have htail := input.le_tagTail [] (input.skip StartTag.inName (reader.offset + 1))
  have hbehind : reader.offset <
      (input.tagTail [] (input.skip StartTag.inName (reader.offset + 1))).stop := by
    omega
  simp only [readStartTag]
  split
  · exact hbehind
  · split
    · exact hbehind
    · split
      · exact lt_offset_readRaw _ (Nat.le_of_lt hbehind) hlt
      · exact hbehind

/-- Every step goes on. -/
theorem lt_offset_step {input : Input} {reader : Reader} (hlt : reader.offset < input.length) :
    reader.offset < (reader.step input).offset := by
  have htext : reader.offset < (reader.readText input).offset := input.le_skip _ _
  simp only [step]
  split
  · split
    · simp only [readComment]
      split
      next found hfound =>
        have hle := Input.le_of_find? hfound
        simp only
        omega
      next => exact hlt
    · split
      · have hname := input.le_skip StartTag.inName (reader.offset + 2)
        exact input.lt_through (Nat.le_trans (Nat.le_add_right _ _) hname) hlt _
      · split
        · exact input.lt_through (Nat.le_refl _) hlt _
        · split
          · exact lt_offset_readStartTag hlt
          · exact htext
  · exact htext

/-- Reads on to the end of the document. -/
def run (reader : Reader) : Reader :=
  if reader.offset < input.length then run (reader.step input) else reader
termination_by input.length - reader.offset
decreasing_by
  have hstep := lt_offset_step ‹reader.offset < input.length›
  omega

end Reader

/-- The markup of a document from an offset on, rounded down to a character. -/
def Tree.parse (text : Text) (start : Nat) : Tree :=
  let input := Input.of text
  let first := text.floorBoundary start
  let last := Reader.run input ⟨first, .empty⟩
  ⟨⟨first, input.length⟩, last.builder.finish input.length⟩

end ComponentServer.Markup
