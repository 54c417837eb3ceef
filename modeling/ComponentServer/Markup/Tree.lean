import ComponentServer.Markup.Node

/-!
Building the tree from tokens. Open elements wait on a stack, innermost first. A closing tag closes
the innermost open element of its name and leaves those inside it unclosed; one that fits no open
element is passed over.
-/

namespace ComponentServer.Markup

/-- An element whose closing tag has not been seen yet. -/
structure OpenElement where
  tag : Text
  attributes : List Attribute
  start : Nat
  startTagEnd : Nat
  children : List Node

namespace OpenElement

def append (element : OpenElement) (nodes : List Node) : OpenElement :=
  { element with children := element.children ++ nodes }

/-- The element closed by a closing tag from `start` to `stop`. -/
def close (element : OpenElement) (start stop : Nat) : Node :=
  .element
    { tag := element.tag
      attributes := element.attributes
      span := ⟨element.start, stop⟩
      startTagEnd := some element.startTagEnd
      endTagStart := some start
      closed := true
      selfClosing := false } element.children

/-- The element without a closing tag, ended at `stop` or behind its opening tag. -/
def abandon (element : OpenElement) (stop : Nat) : Node :=
  .element
    { tag := element.tag
      attributes := element.attributes
      span := ⟨element.start, max stop element.startTagEnd⟩
      startTagEnd := some element.startTagEnd
      endTagStart := none
      closed := false
      selfClosing := false } element.children

end OpenElement

/-- The tree so far: what is complete at the top, and the open elements, innermost first. -/
structure Builder where
  top : List Node
  stack : List OpenElement

namespace Builder

def empty : Builder := ⟨[], []⟩

/-- The nodes become the last children of the innermost open element. -/
def append (builder : Builder) (nodes : List Node) : Builder :=
  match builder.stack with
  | [] => { builder with top := builder.top ++ nodes }
  | element :: outer => { builder with stack := element.append nodes :: outer }

def push (builder : Builder) (element : OpenElement) : Builder :=
  { builder with stack := element :: builder.stack }

/-- Closes the innermost open element called `name`; `nodes` are what became of the elements inside
those of the stack that are still to be visited. -/
def closeIn (name : Text) (start stop : Nat) (top nodes : List Node) : List OpenElement → Builder
  | [] => ⟨top ++ nodes, []⟩
  | element :: outer =>
    if element.tag.equalsIgnoringCase name then
      (Builder.mk top outer).append [(element.append nodes).close start stop]
    else closeIn name start stop top [(element.append nodes).abandon start] outer

/-- Handles a closing tag that stands from `start` to `stop`. -/
def close (builder : Builder) (name : Text) (start stop : Nat) : Builder :=
  if builder.stack.any (·.tag.equalsIgnoringCase name) then
    closeIn name start stop builder.top [] builder.stack
  else builder

/-- Ends all open elements at `stop`. -/
def finishIn (stop : Nat) (top nodes : List Node) : List OpenElement → List Node
  | [] => top ++ nodes
  | element :: outer => finishIn stop top [(element.append nodes).abandon stop] outer

def finish (builder : Builder) (stop : Nat) : List Node :=
  finishIn stop builder.top [] builder.stack

/-- The element of an opening tag that starts at `start` and has no content. -/
def leaf (tag : StartTag) (start : Nat) : Node :=
  .element
    { tag := tag.name
      attributes := tag.attributes
      span := ⟨start, start + tag.text.size⟩
      startTagEnd := if tag.terminated then some (start + tag.text.size) else none
      endTagStart := none
      closed := tag.terminated
      selfClosing := tag.selfClosing } []

/-- The element of a raw token that starts at `start`. -/
def rawElement (tag : StartTag) (content : Text) (close : Option Text) (start : Nat) : Node :=
  let inner := start + tag.text.size
  let outer := inner + content.size
  .element
    { tag := tag.name
      attributes := tag.attributes
      span := ⟨start, outer + (close.getD []).size⟩
      startTagEnd := some inner
      endTagStart := close.map fun _ => outer
      closed := close.isSome
      selfClosing := false }
    (if content.isEmpty then [] else [.text ⟨inner, outer⟩])

/-- Takes in the token that starts at `start`. -/
def add (builder : Builder) (start : Nat) : Token → Builder
  | .text text =>
    if text.allBlank then builder else builder.append [.text ⟨start, start + text.size⟩]
  | .comment text closed => builder.append [.comment ⟨start, start + text.size⟩ closed]
  | .endTag text name => builder.close name start (start + text.size)
  | .raw tag content close => builder.append [rawElement tag content close start]
  | .startTag tag =>
    if !tag.terminated || tag.selfClosing || isVoidTag tag.name then
      builder.append [leaf tag start]
    else
      builder.push
        { tag := tag.name
          attributes := tag.attributes
          start := start
          startTagEnd := start + tag.text.size
          children := [] }

/-- Takes in tokens that follow each other from `start` on. -/
def addAll (builder : Builder) (start : Nat) : List Token → Builder
  | [] => builder
  | token :: others => addAll (builder.add start token) (start + token.source.size) others

end Builder

/-- The tree of a markup text that stands at offset `start` of its document. -/
def Tree.ofMarkup (start : Nat) (markup : Text) : Tree where
  span := ⟨start, start + markup.size⟩
  children := (Builder.empty.addAll start (Token.scan markup)).finish (start + markup.size)

end ComponentServer.Markup
