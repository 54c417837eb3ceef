import ComponentServer.Text.Blank

/-!
Opening tags. Reading one never fails: attributes are read until the tag's own `>`, the next `<` or
the end of the input, whichever comes first. Every reader here splits its input, so that what it
took and what it left give the input back.
-/

namespace ComponentServer.Markup

/-- An attribute with its value as written, quotes and braces included. -/
structure Attribute where
  name : Text
  value : Option Text
deriving DecidableEq, Repr

/-- The attribute takes the place of an earlier one of the same name. -/
def setAttribute (attributes : List Attribute) (latest : Attribute) : List Attribute :=
  attributes.filter (·.name != latest.name) ++ [latest]

def isQuote (c : Char) : Bool := c == '\x22' || c == '\x27' || c == '\x60'

/-- Where the reader of a braced group stands. -/
inductive GroupState where
  | code
  | quoted (quote : Char)
  | escaped (quote : Char)
deriving DecidableEq, Repr

/-- Splits off what closes a braced group that is open `depth` deep. String literals hide their
braces, a backslash in one hides the next character, and a group that never closes takes all. -/
def splitGroup : GroupState → Nat → Text → Text × Text
  | _, _, [] => ([], [])
  | .quoted quote, depth, c :: rest =>
    let state := if c = quote then .code else if c = '\\' then .escaped quote else .quoted quote
    let halves := splitGroup state depth rest
    (c :: halves.1, halves.2)
  | .escaped quote, depth, c :: rest =>
    let halves := splitGroup (.quoted quote) depth rest
    (c :: halves.1, halves.2)
  | .code, depth, c :: rest =>
    if c = '\x7d' ∧ depth ≤ 1 then ([c], rest)
    else
      let state := if isQuote c then .quoted c else .code
      let inner := if c = '\x7b' then depth + 1 else if c = '\x7d' then depth - 1 else depth
      let halves := splitGroup state inner rest
      (c :: halves.1, halves.2)

theorem splitGroup_append (state : GroupState) (depth : Nat) (text : Text) :
    (splitGroup state depth text).1 ++ (splitGroup state depth text).2 = text := by
  induction text generalizing state depth with
  | nil => cases state <;> rfl
  | cons c rest ih =>
    cases state with
    | quoted quote => simp [splitGroup, ih]
    | escaped quote => simp [splitGroup, ih]
    | code =>
      by_cases h : c = '\x7d' ∧ depth ≤ 1
      · simp [splitGroup, h]
      · simp [splitGroup, h, ih]

/-- Splits off an attribute's value: a quoted literal, a braced group, or all to a blank or `>`. -/
def splitValue : Text → Text × Text
  | [] => ([], [])
  | c :: rest =>
    if isQuote c then
      let halves := Text.splitThrough c rest
      (c :: halves.1, halves.2)
    else if c = '\x7b' then
      let halves := splitGroup .code 1 rest
      (c :: halves.1, halves.2)
    else
      let inValue := fun d => !(isTagBlank d || d == '>')
      ((c :: rest).takeWhile inValue, (c :: rest).dropWhile inValue)

theorem splitValue_append (text : Text) :
    (splitValue text).1 ++ (splitValue text).2 = text := by
  cases text with
  | nil => rfl
  | cons c rest =>
    by_cases hquote : isQuote c = true
    · simp [splitValue, hquote, Text.splitThrough_append]
    · by_cases hbrace : c = '\x7b'
      · subst hbrace
        simp [splitValue, isQuote, splitGroup_append]
      · simp only [splitValue, hquote, hbrace]
        exact List.takeWhile_append_dropWhile

/-- What follows an attribute's name: the text of its assignment, if there is one, and the value. -/
structure Assignment where
  text : Text
  value : Option Text
  rest : Text

def Assignment.read (input : Text) : Assignment :=
  match input.dropWhile isTagBlank with
  | '=' :: assigned =>
    let raw := splitValue (assigned.dropWhile isTagBlank)
    { text := input.takeWhile isTagBlank ++ '=' :: assigned.takeWhile isTagBlank ++ raw.1
      value := some raw.1
      rest := raw.2 }
  | _ => { text := [], value := none, rest := input }

theorem Assignment.text_append_rest (input : Text) :
    (Assignment.read input).text ++ (Assignment.read input).rest = input := by
  unfold Assignment.read
  split
  next assigned h =>
    simp only [List.append_assoc, List.cons_append, splitValue_append,
      List.takeWhile_append_dropWhile]
    rw [← h, List.takeWhile_append_dropWhile]
  next => rfl

theorem Assignment.length_rest_le (input : Text) :
    (Assignment.read input).rest.length ≤ input.length := by
  have h := congrArg List.length (text_append_rest input)
  simp only [List.length_append] at h
  omega

/-- How an opening tag ends. -/
inductive TagEnding where
  /-- By its own `>`. -/
  | bracket
  /-- By `/>`. -/
  | slash
  /-- In front of the `<` of the next tag. -/
  | nextTag
  /-- By the end of the input. -/
  | inputEnd
deriving DecidableEq, Repr

/-- The part of an opening tag behind its name. -/
structure TagBody where
  text : Text
  attributes : List Attribute
  ending : TagEnding
  rest : Text

namespace TagBody

def prepend (text : Text) (body : TagBody) : TagBody := { body with text := text ++ body.text }

/-- A character that an attribute's name may hold. -/
def inName (c : Char) : Bool :=
  !(isTagBlank c || c == '=' || c == '>' || c == '/' || c == '<' || c == '\x22' || c == '\x27')

/-- Reads attributes up to the end of the tag. A braced group is an attribute without value; a
character that can start nothing is passed over. -/
def read (attributes : List Attribute) : Text → TagBody
  | [] => ⟨[], attributes, .inputEnd, []⟩
  | '>' :: rest => ⟨['>'], attributes, .bracket, rest⟩
  | '/' :: '>' :: rest => ⟨['/', '>'], attributes, .slash, rest⟩
  | '<' :: rest => ⟨[], attributes, .nextTag, '<' :: rest⟩
  | c :: rest =>
    if c = '\x7b' then
      let group := splitGroup .code 1 rest
      (read (setAttribute attributes ⟨c :: group.1, none⟩) group.2).prepend (c :: group.1)
    else if inName c then
      let name := c :: rest.takeWhile inName
      let assignment := Assignment.read (rest.dropWhile inName)
      (read (setAttribute attributes ⟨name, assignment.value⟩) assignment.rest).prepend
        (name ++ assignment.text)
    else (read attributes rest).prepend [c]
termination_by text => text.length
decreasing_by
  · have h := congrArg List.length (splitGroup_append .code 1 rest)
    simp only [List.length_append] at h
    simp only [List.length_cons]
    omega
  · have h := Assignment.length_rest_le (rest.dropWhile inName)
    have hdrop := (List.dropWhile_suffix inName (l := rest)).length_le
    simp only [List.length_cons]
    omega
  · simp

theorem text_append_rest (attributes : List Attribute) (input : Text) :
    (read attributes input).text ++ (read attributes input).rest = input := by
  fun_induction read attributes input with
  | case1 => rfl
  | case2 => rfl
  | case3 => rfl
  | case4 => rfl
  | case5 attributes rest group _ _ _ ih =>
    simp only [prepend, List.append_assoc, ih]
    simp [group, splitGroup_append]
  | case6 attributes c rest _ _ _ hbrace hname name assignment ih =>
    simp only [prepend, List.append_assoc, ih]
    simp [name, assignment, Assignment.text_append_rest]
  | case7 attributes c rest _ _ _ hbrace hname ih => simp [prepend, ih]

end TagBody

/-- An opening tag, from its `<` to where it ends. -/
structure StartTag where
  text : Text
  name : Text
  attributes : List Attribute
  ending : TagEnding
deriving DecidableEq, Repr

namespace StartTag

/-- A character that a tag's name may hold. -/
def inName (c : Char) : Bool := !(isTagBlank c || c == '>' || c == '/' || c == '<')

/-- Reads the tag whose `<` stands in front of `input`. -/
def read (input : Text) : StartTag × Text :=
  let name := input.takeWhile inName
  let body := TagBody.read [] (input.dropWhile inName)
  ({ text := '<' :: name ++ body.text
     name := name
     attributes := body.attributes
     ending := body.ending }, body.rest)

theorem text_append_rest (input : Text) :
    (read input).1.text ++ (read input).2 = '<' :: input := by
  simp [read, TagBody.text_append_rest]

/-- Whether the tag ends before the input does. -/
def terminated (tag : StartTag) : Bool := tag.ending != .inputEnd

def selfClosing (tag : StartTag) : Bool := tag.ending == .slash

end StartTag

end ComponentServer.Markup
