import ComponentServer.Markup.Tree

/-!
Embedded blocks: the scripts and styles of a document. A script is a module of its own, shares the
scope of the frontmatter, or is data that nobody checks.
-/

namespace ComponentServer

open Markup

inductive BlockKind where
  | script
  | style
deriving DecidableEq, Repr

namespace BlockKind

def tag : BlockKind → Text
  | script => scriptTag
  | style => styleTag

end BlockKind

inductive ScriptMode where
  /-- Checked in isolation, as a file of its own. -/
  | module
  /-- Checked in the scope of the frontmatter and the other inline scripts. -/
  | inline
  /-- Not code. -/
  | data
deriving DecidableEq, Repr

structure Block where
  kind : BlockKind
  content : Text
  /-- The content, from behind the opening tag on. -/
  span : Span
  /-- Names and values, the quotes of a value removed. -/
  attributes : List (Text × Text)
  /-- The whole element, tags included. -/
  container : Span
  closed : Bool
deriving DecidableEq, Repr

namespace Block

/-- The attribute that keeps a script in the page's own scope. -/
def inlineAttribute : Text := "is:inline".toList

/-- Handing variables to a script also keeps it in the page's scope. -/
def variablesAttribute : Text := "define:vars".toList

/-- The values of `type` that denote code. -/
def codeTypes : List Text :=
  ["", "module", "text/javascript", "application/javascript", "text/typescript",
    "application/typescript"].map String.toList

/-- Takes the quote in front away, and its partner at the end if there is one. -/
def unquote : Text → Text
  | [] => []
  | c :: rest =>
    if isQuote c then
      if rest.getLast? = some c then rest.dropLast else rest
    else c :: rest

def kindOf? (element : Element) : Option BlockKind :=
  if element.tag.equalsIgnoringCase scriptTag then some .script
  else if element.tag.equalsIgnoringCase styleTag then some .style
  else none

/-- The block of an element whose content stands in a span. -/
def ofContent (element : Element) (kind : BlockKind) (span : Span) (content : Text) : Block where
  kind := kind
  content := content
  span := span
  attributes := element.attributes.map fun written =>
    (written.name, (written.value.map unquote).getD written.name)
  container := element.span
  closed := element.closed

/-- The block of a script or style element whose opening tag is complete. -/
def ofElement? (text : Text) (element : Element) : Option Block := do
  let kind ← kindOf? element
  let span ← element.content?
  let content ← text.get? span
  return ofContent element kind span content

/-- All blocks of a tree, in document order. -/
def extract (tree : Tree) (text : Text) : List Block := tree.elements.filterMap (ofElement? text)

def attribute? (block : Block) (name : Text) : Option Text :=
  (block.attributes.find? (·.1 = name)).map Prod.snd

def hasAttribute (block : Block) (name : Text) : Bool := (block.attribute? name).isSome

/-- The language its author declares. -/
def language? (block : Block) : Option Text := block.attribute? "lang".toList

/-- Whether an offset lies in the content, where the end counts too. -/
def contains (block : Block) (offset : Nat) : Bool :=
  decide (block.span.start ≤ offset) && decide (offset ≤ block.span.stop)

/-- How a script is checked, given the attributes that keep it in the page's scope. -/
def mode (block : Block) (inlineAttributes : List Text) : ScriptMode :=
  let isCode := ((block.attribute? "type".toList).map fun value =>
    codeTypes.contains value.trim.lower).getD true
  if !isCode then .data
  else if block.hasAttribute variablesAttribute || inlineAttributes.any block.hasAttribute then
    .inline
  else .module

def isInlineScript (block : Block) (inlineAttributes : List Text) : Bool :=
  block.kind == .script && block.mode inlineAttributes == .inline

end Block

end ComponentServer
