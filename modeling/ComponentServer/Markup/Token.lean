import ComponentServer.Markup.StartTag

/-!
Markup tokens. Every token keeps the text it was read from, and the texts of all tokens give the
input back.
-/

namespace ComponentServer.Markup

/-- Elements without content and without a closing tag. -/
def voidTags : List Text :=
  ["area", "base", "br", "col", "embed", "hr", "img", "input", "link", "meta", "source", "track",
    "wbr"].map String.toList

def isVoidTag (name : Text) : Bool := voidTags.contains name.lower

def scriptTag : Text := ['s', 'c', 'r', 'i', 'p', 't']

def styleTag : Text := ['s', 't', 'y', 'l', 'e']

/-- Elements whose content is plain text up to their closing tag. -/
def isRawTag (name : Text) : Bool :=
  name.equalsIgnoringCase scriptTag || name.equalsIgnoringCase styleTag

/-- Whether the tag is followed by plain content. -/
def StartTag.opensRaw (tag : StartTag) : Bool :=
  isRawTag tag.name && tag.terminated && !tag.selfClosing

inductive Token where
  | text (run : Text)
  /-- A comment, or a declaration, which is always closed. -/
  | comment (whole : Text) (closed : Bool)
  | startTag (tag : StartTag)
  | endTag (whole name : Text)
  /-- An element with plain content, and its closing tag if there is one. -/
  | raw (tag : StartTag) (content : Text) (close : Option Text)
deriving DecidableEq, Repr

namespace Token

/-- The stretch of input a token was read from. -/
def source : Token → Text
  | .text run => run
  | .comment whole _ => whole
  | .startTag tag => tag.text
  | .endTag whole _ => whole
  | .raw tag content close => tag.text ++ content ++ close.getD []

/-- A run of text takes its first character, whatever it is, and goes on to the next `<`. -/
def readText (c : Char) (rest : Text) : Token × Text :=
  (.text (c :: rest.takeWhile (· != '<')), rest.dropWhile (· != '<'))

def readComment (body : Text) : Token × Text :=
  match Text.cut? ['-', '-', '>'] body with
  | some (inner, rest) =>
    (.comment (['<', '!', '-', '-'] ++ inner ++ rest.take 3) true, rest.drop 3)
  | none => (.comment (['<', '!', '-', '-'] ++ body) false, [])

def readDeclaration (body : Text) : Token × Text :=
  (.comment (['<', '!'] ++ (body.splitThrough '>').1) true, (body.splitThrough '>').2)

/-- Reads the closing tag whose name starts with `body`. -/
def readEndTag (body : Text) : Token × Text :=
  let name := body.takeWhile StartTag.inName
  let remaining := Text.splitThrough '>' (body.dropWhile StartTag.inName)
  (.endTag (['<', '/'] ++ name ++ remaining.1) name, remaining.2)

/-- Reads the content of a raw element and its closing tag, which starts at the first `</` that is
followed by the element's name. -/
def readRaw (tag : StartTag) (input : Text) : Token × Text :=
  match Text.cutIgnoringCase? (['<', '/'] ++ tag.name) input with
  | some (content, rest) =>
    (.raw tag content (some (rest.splitThrough '>').1), (rest.splitThrough '>').2)
  | none => (.raw tag input none, [])

/-- Reads the opening tag whose name starts with `body`, with its content if that is plain text. -/
def readStartTag (body : Text) : Token × Text :=
  if (StartTag.read body).1.opensRaw then readRaw (StartTag.read body).1 (StartTag.read body).2
  else (.startTag (StartTag.read body).1, (StartTag.read body).2)

/-- Reads the token that starts with `c`. -/
def readNext (c : Char) (rest : Text) : Token × Text :=
  if c = '<' then
    match rest with
    | '!' :: '-' :: '-' :: body => readComment body
    | '!' :: body => readDeclaration body
    | '/' :: a :: body => if a.isAlpha then readEndTag (a :: body) else readText c rest
    | a :: body => if a.isAlpha then readStartTag (a :: body) else readText c rest
    | [] => readText c rest
  else readText c rest

theorem readText_append (c : Char) (rest : Text) :
    (readText c rest).1.source ++ (readText c rest).2 = c :: rest := by
  simp [readText, source]

theorem readComment_append (body : Text) :
    (readComment body).1.source ++ (readComment body).2 = ['<', '!', '-', '-'] ++ body := by
  unfold readComment
  split
  next inner rest h => simp [source, ← Text.cutWhere?_append h]
  next => simp [source]

theorem readDeclaration_append (body : Text) :
    (readDeclaration body).1.source ++ (readDeclaration body).2 = ['<', '!'] ++ body := by
  simp [readDeclaration, source, Text.splitThrough_append]

theorem readEndTag_append (body : Text) :
    (readEndTag body).1.source ++ (readEndTag body).2 = ['<', '/'] ++ body := by
  simp [readEndTag, source, Text.splitThrough_append]

theorem readRaw_append (tag : StartTag) (input : Text) :
    (readRaw tag input).1.source ++ (readRaw tag input).2 = tag.text ++ input := by
  unfold readRaw
  split
  next content rest h => simp [source, ← Text.cutWhere?_append h, Text.splitThrough_append]
  next => simp [source]

theorem readStartTag_append (body : Text) :
    (readStartTag body).1.source ++ (readStartTag body).2 = '<' :: body := by
  unfold readStartTag
  split
  · rw [readRaw_append, StartTag.text_append_rest]
  · exact StartTag.text_append_rest body

/-- A token and what it leaves give the input back. -/
theorem readNext_append (c : Char) (rest : Text) :
    (readNext c rest).1.source ++ (readNext c rest).2 = c :: rest := by
  unfold readNext
  split
  next h =>
    subst h
    split
    · simp [readComment_append]
    · simp [readDeclaration_append]
    · split
      · simp [readEndTag_append]
      · exact readText_append _ _
    · split
      · exact readStartTag_append _
      · exact readText_append _ _
    · exact readText_append _ _
  next => exact readText_append _ _

theorem readText_source_ne_nil (c : Char) (rest : Text) : (readText c rest).1.source ≠ [] := by
  simp [readText, source]

theorem readComment_source_ne_nil (body : Text) : (readComment body).1.source ≠ [] := by
  unfold readComment
  split <;> simp [source]

theorem readStartTag_source_ne_nil (body : Text) : (readStartTag body).1.source ≠ [] := by
  unfold readStartTag
  split
  · unfold readRaw
    split <;> simp [source, StartTag.read]
  · simp [source, StartTag.read]

theorem readNext_source_ne_nil (c : Char) (rest : Text) : (readNext c rest).1.source ≠ [] := by
  unfold readNext
  split
  · split
    · exact readComment_source_ne_nil _
    · simp [readDeclaration, source]
    · split
      · simp [readEndTag, source]
      · exact readText_source_ne_nil _ _
    · split
      · exact readStartTag_source_ne_nil _
      · exact readText_source_ne_nil _ _
    · exact readText_source_ne_nil _ _
  · exact readText_source_ne_nil _ _

theorem length_readNext_le (c : Char) (rest : Text) :
    (readNext c rest).2.length ≤ rest.length := by
  have h := congrArg List.length (readNext_append c rest)
  have hpos := List.length_pos_iff.2 (readNext_source_ne_nil c rest)
  simp only [List.length_append, List.length_cons] at h
  omega

/-- All tokens of a text, in order. -/
def scan : Text → List Token
  | [] => []
  | c :: rest =>
    let next := readNext c rest
    next.1 :: scan next.2
termination_by text => text.length
decreasing_by
  have h := length_readNext_le c rest
  simp only [List.length_cons]
  omega

/-- Nothing is lost: the tokens' texts give the input back. -/
theorem flatMap_source_scan (text : Text) : (scan text).flatMap source = text := by
  fun_induction scan text with
  | case1 => rfl
  | case2 c rest next ih => rw [List.flatMap_cons, ih, readNext_append]

end Token

end ComponentServer.Markup
