import ComponentServer.Proofs.Block
import ComponentServer.Proofs.Frontmatter
import ComponentServer.Tsx.Compile

/-!
# Markup does not depend on what stands in front of it

The reader moves over the bytes of the whole document, so what stands in front of the markup is
always in its reach. It has no part in the tree all the same: from a character on, the reader takes
in the tokens of the text that is left, at the offsets where they stand. Moving a tree means moving
all its offsets by one amount, and every step of the builder commutes with that. So the markup of a
document is the tree that its text gives on its own, moved to where it stands, and so are its blocks.
The frontmatter decides where the markup stands and nothing else.
-/

namespace ComponentServer

open Text

namespace Markup

variable {amount : Nat}

/-! ### Moved trees -/

def Element.shift (amount : Nat) (element : Element) : Element :=
  { element with
    span := element.span.shift amount
    startTagEnd := element.startTagEnd.map (· + amount)
    endTagStart := element.endTagStart.map (· + amount) }

mutual

def Node.shift (amount : Nat) : Node → Node
  | .text span => .text (span.shift amount)
  | .comment span closed => .comment (span.shift amount) closed
  | .element head children => .element (head.shift amount) (Node.shiftAll amount children)

def Node.shiftAll (amount : Nat) : List Node → List Node
  | [] => []
  | node :: others => node.shift amount :: Node.shiftAll amount others

end

def Tree.shift (amount : Nat) (tree : Tree) : Tree :=
  ⟨tree.span.shift amount, Node.shiftAll amount tree.children⟩

theorem Node.shiftAll_eq_map (amount : Nat) (nodes : List Node) :
    Node.shiftAll amount nodes = nodes.map (Node.shift amount) := by
  induction nodes with
  | nil => rfl
  | cons node others ih => rw [Node.shiftAll, ih, List.map_cons]

@[simp]
theorem Node.shiftAll_append (amount : Nat) (front back : List Node) :
    Node.shiftAll amount (front ++ back) =
      Node.shiftAll amount front ++ Node.shiftAll amount back := by
  simp [Node.shiftAll_eq_map]

mutual

theorem Node.preorder_shift (amount : Nat) :
    ∀ node : Node, (node.shift amount).preorder = node.preorder.map (Node.shift amount)
  | .text _ => rfl
  | .comment _ _ => rfl
  | .element head children => by
    rw [Node.shift, Node.preorder, Node.preorder, Node.preorderAll_shiftAll amount children,
      List.map_cons, Node.shift]

theorem Node.preorderAll_shiftAll (amount : Nat) :
    ∀ nodes : List Node, Node.preorderAll (Node.shiftAll amount nodes) =
      (Node.preorderAll nodes).map (Node.shift amount)
  | [] => rfl
  | node :: others => by
    rw [Node.shiftAll, Node.preorderAll, Node.preorderAll, Node.preorder_shift amount node,
      Node.preorderAll_shiftAll amount others, List.map_append]

end

theorem Tree.elements_shift (amount : Nat) (tree : Tree) :
    (tree.shift amount).elements = tree.elements.map (Element.shift amount) := by
  rw [elements, elements, nodes_eq_preorderAll, nodes_eq_preorderAll, shift,
    Node.preorderAll_shiftAll, List.filterMap_map,
    List.map_filterMap]
  congr 1
  funext node
  cases node <;> rfl

theorem Element.content?_shift (amount : Nat) (element : Element) :
    (element.shift amount).content? = element.content?.map (Span.shift · amount) := by
  cases hstart : element.startTagEnd with
  | none => simp [content?, shift, hstart]
  | some start =>
    cases hend : element.endTagStart <;>
      simp [content?, shift, hstart, hend, Span.shift, Nat.add_max_add_right]

/-! ### Moved builders -/

def OpenElement.shift (amount : Nat) (element : OpenElement) : OpenElement :=
  { element with
    start := element.start + amount
    startTagEnd := element.startTagEnd + amount
    children := Node.shiftAll amount element.children }

namespace Builder

def shift (amount : Nat) (builder : Builder) : Builder :=
  ⟨Node.shiftAll amount builder.top, builder.stack.map (OpenElement.shift amount)⟩

theorem append_shift (builder : Builder) (nodes : List Node) :
    (builder.append nodes).shift amount =
      (builder.shift amount).append (Node.shiftAll amount nodes) := by
  obtain ⟨top, stack⟩ := builder
  cases stack with
  | nil => simp [append, shift]
  | cons element outer => simp [append, shift, OpenElement.append, OpenElement.shift]

theorem abandon_shift (element : OpenElement) (nodes : List Node) (stop : Nat) :
    ((element.append nodes).abandon stop).shift amount =
      ((element.shift amount).append (Node.shiftAll amount nodes)).abandon (stop + amount) := by
  simp [OpenElement.abandon, OpenElement.append, OpenElement.shift, Node.shift, Element.shift,
    Span.shift, Nat.add_max_add_right]

theorem close_shift (element : OpenElement) (nodes : List Node) (start stop : Nat) :
    ((element.append nodes).close start stop).shift amount =
      ((element.shift amount).append (Node.shiftAll amount nodes)).close (start + amount)
        (stop + amount) := by
  simp [OpenElement.close, OpenElement.append, OpenElement.shift, Node.shift, Element.shift,
    Span.shift]

theorem closeIn_shift (name : Text) (start stop : Nat) (top nodes : List Node)
    (stack : List OpenElement) :
    (closeIn name start stop top nodes stack).shift amount =
      closeIn name (start + amount) (stop + amount) (Node.shiftAll amount top)
        (Node.shiftAll amount nodes) (stack.map (OpenElement.shift amount)) := by
  induction stack generalizing nodes with
  | nil => simp [closeIn, shift]
  | cons element outer ih =>
    rw [closeIn, List.map_cons, closeIn]
    have htag : (element.shift amount).tag = element.tag := rfl
    rw [htag]
    split
    · rw [append_shift, Node.shiftAll, close_shift]
      rfl
    · rw [ih, Node.shiftAll, abandon_shift]
      rfl

theorem finishIn_shift (stop : Nat) (top nodes : List Node) (stack : List OpenElement) :
    Node.shiftAll amount (finishIn stop top nodes stack) =
      finishIn (stop + amount) (Node.shiftAll amount top) (Node.shiftAll amount nodes)
        (stack.map (OpenElement.shift amount)) := by
  induction stack generalizing nodes with
  | nil => simp [finishIn]
  | cons element outer ih =>
    rw [finishIn, List.map_cons, finishIn, ih, Node.shiftAll, abandon_shift]
    rfl

theorem leaf_shift (tag : StartTag) (start : Nat) :
    (leaf tag start).shift amount = leaf tag (start + amount) := by
  have hstop : start + tag.text.size + amount = start + amount + tag.text.size := by omega
  simp only [leaf, Node.shift, Element.shift, Span.shift, Node.shiftAll, hstop, Option.map_none]
  split
  · simp [hstop]
  · rfl

theorem rawElement_shift (tag : StartTag) (content : Text) (close : Option Text) (start : Nat) :
    (rawElement tag content close start).shift amount =
      rawElement tag content close (start + amount) := by
  have hstop (length : Nat) : start + length + amount = start + amount + length := by omega
  cases close <;> cases content <;>
    simp [rawElement, Node.shift, Node.shiftAll, Element.shift, Span.shift, hstop, Nat.add_assoc,
      Nat.add_comm amount]

theorem add_shift (builder : Builder) (start : Nat) (token : Token) :
    (builder.add start token).shift amount =
      (builder.shift amount).add (start + amount) token := by
  have hstop (length : Nat) : start + length + amount = start + amount + length := by omega
  cases token with
  | text text =>
    rw [add, add]
    split
    · rfl
    · rw [append_shift, Node.shiftAll, Node.shift, Node.shiftAll, Span.shift, hstop]
  | comment text closed =>
    rw [add, add, append_shift, Node.shiftAll, Node.shift, Node.shiftAll, Span.shift, hstop]
  | endTag text name =>
    rw [add, add, close, close]
    have hany : (builder.shift amount).stack.any (·.tag.equalsIgnoringCase name) =
        builder.stack.any (·.tag.equalsIgnoringCase name) := by
      rw [shift, List.any_map]
      rfl
    rw [hany]
    split
    · rw [closeIn_shift, hstop]
      rfl
    · rfl
  | raw tag content close =>
    rw [add, add, append_shift, Node.shiftAll, Node.shiftAll, rawElement_shift]
  | startTag tag =>
    rw [add, add]
    split
    · rw [append_shift, Node.shiftAll, Node.shiftAll, leaf_shift]
    · simp [push, shift, OpenElement.shift, Node.shiftAll, hstop]

theorem addAll_shift (builder : Builder) (start : Nat) (tokens : List Token) :
    (builder.addAll start tokens).shift amount =
      (builder.shift amount).addAll (start + amount) tokens := by
  induction tokens generalizing builder start with
  | nil => rfl
  | cons token others ih =>
    rw [addAll, addAll, ih, add_shift, Nat.add_right_comm]

end Builder

theorem Tree.ofMarkup_shift (start : Nat) (markup : Text) :
    (Tree.ofMarkup start markup).shift amount = Tree.ofMarkup (start + amount) markup := by
  have hstop : start + size markup + amount = start + amount + size markup := by omega
  rw [ofMarkup, ofMarkup, shift, Builder.finish, Builder.finishIn_shift, ← hstop]
  have hbuilt : (Builder.empty.addAll start (Token.scan markup)).shift amount =
      Builder.empty.addAll (start + amount) (Token.scan markup) :=
    Builder.addAll_shift Builder.empty start (Token.scan markup)
  rw [← hbuilt]
  rfl

theorem Tree.parse_eq_shift {text : Text} {start : Nat} (h : IsBoundary text start) :
    Tree.parse text start = (Tree.parse (text.dropBytes start) 0).shift start := by
  rw [parse_eq_ofMarkup, parse_eq_ofMarkup, floorBoundary_of_isBoundary h,
    floorBoundary_of_isBoundary (isBoundary_zero _), dropBytes_zero, ofMarkup_shift, Nat.zero_add]

end Markup

/-! ### Moved blocks -/

theorem Text.dropBytes_append_add (before after : Text) (count : Nat) :
    dropBytes (count + size before) (before ++ after) = dropBytes count after := by
  induction before with
  | nil => rfl
  | cons c rest ih =>
    have hpos := c.utf8Size_pos
    rw [List.cons_append, dropBytes_cons (by rw [size_cons]; omega), ← ih]
    congr 1
    rw [size_cons]
    omega

theorem Text.slice_shift (before after : Text) (span : Span) :
    slice (before ++ after) (span.shift (size before)) = slice after span := by
  have hlength : (span.shift (size before)).length = span.length := by
    simp only [Span.length, Span.shift]
    omega
  rw [slice, slice, hlength, Span.shift, dropBytes_append_add]

namespace Block

open Markup

def shift (amount : Nat) (block : Block) : Block :=
  { block with
    span := block.span.shift amount
    container := block.container.shift amount }

theorem ofSlices?_shift (before after : Text) (element : Element) :
    ofSlices? (before ++ after) (element.shift (size before)) =
      (ofSlices? after element).map (shift (size before)) := by
  have hkind : kindOf? (element.shift (size before)) = kindOf? element := rfl
  rw [ofSlices?, ofSlices?, hkind, Element.content?_shift]
  cases kindOf? element with
  | none => rfl
  | some kind =>
    cases element.content? with
    | none => rfl
    | some span =>
      have hcontent := slice_shift before after span
      simp only [Option.map_some, Option.bind_eq_bind, Option.bind_some, hcontent]
      rfl

theorem extractSlices_shift (tree : Tree) (before after : Text) :
    extractSlices (tree.shift (size before)) (before ++ after) =
      (extractSlices tree after).map (shift (size before)) := by
  rw [extractSlices, extractSlices, Tree.elements_shift, List.filterMap_map, List.map_filterMap]
  congr 1
  funext element
  exact ofSlices?_shift before after element

end Block

/-! ### Documents -/

namespace Markup

/-- From the offset on, the tree and the blocks are what the rest of the text gives on its own, with
all offsets moved. -/
structure StandsAlone (text : Text) (start : Nat) : Prop where
  tree : Tree.parse text start = (Tree.parse (text.dropBytes start) 0).shift start
  blocks : Block.extract (Tree.parse text start) text =
    (Block.extract (Tree.parse (text.dropBytes start) 0) (text.dropBytes start)).map
      (Block.shift start)

theorem standsAlone_of_isBoundary {text : Text} {start : Nat} (h : IsBoundary text start) :
    StandsAlone text start := by
  refine ⟨Tree.parse_eq_shift h, ?_⟩
  rw [Block.extract_parse, Block.extract_parse, Tree.parse_eq_shift h]
  obtain ⟨before, after, rfl, rfl⟩ := h
  rw [dropBytes_append_size, Block.extractSlices_shift]

end Markup

namespace Tsx.Parts

open Markup

/-- One tree and one list of blocks, moved to where the markup of each document starts. -/
def SameMarkup (left right : Text) (leftStart rightStart : Nat) : Prop :=
  ∃ (tree : Tree) (blocks : List Block),
    (of left).tree = tree.shift leftStart ∧ (of right).tree = tree.shift rightStart ∧
      (of left).blocks = blocks.map (Block.shift leftStart) ∧
      (of right).blocks = blocks.map (Block.shift rightStart)

theorem isBoundary_of_closed {text : Text} {first last : Fence}
    (h : Frontmatter.scan text = .closed first last) : IsBoundary text last.stop := by
  have hstart := Frontmatter.isBoundary_markupStart text
  rwa [h] at hstart

theorem of_closed {text : Text} {first last : Fence}
    (h : Frontmatter.scan text = .closed first last) :
    (of text).tree = Tree.parse text last.stop ∧
      (of text).blocks = Block.extract (Tree.parse text last.stop) text := by
  simp only [of, h]
  exact ⟨rfl, rfl⟩

theorem markup_independent_of_front :
    (∀ text start, IsBoundary text start → StandsAlone text start) ∧
    ∀ left right first last first' last',
      Frontmatter.scan left = .closed first last → Frontmatter.scan right = .closed first' last' →
        left.dropBytes last.stop = right.dropBytes last'.stop →
          SameMarkup left right last.stop last'.stop := by
  refine ⟨fun text start => standsAlone_of_isBoundary, ?_⟩
  intro left right first last first' last' hleft hright hagree
  have hleftAlone := standsAlone_of_isBoundary (isBoundary_of_closed hleft)
  have hrightAlone := standsAlone_of_isBoundary (isBoundary_of_closed hright)
  obtain ⟨hleftTree, hleftBlocks⟩ := of_closed hleft
  obtain ⟨hrightTree, hrightBlocks⟩ := of_closed hright
  refine ⟨Tree.parse (left.dropBytes last.stop) 0,
    Block.extract (Tree.parse (left.dropBytes last.stop) 0) (left.dropBytes last.stop),
    ?_, ?_, ?_, ?_⟩
  · rw [hleftTree, hleftAlone.tree]
  · rw [hrightTree, hrightAlone.tree, hagree]
  · rw [hleftBlocks, hleftAlone.blocks]
  · rw [hrightBlocks, hrightAlone.blocks, hagree]

/-- A body in front of the markup, and one that is empty behind a character of two bytes. -/
def fencedLeft : Text := "---\nlet a\n---<p>é</p>\n<script>x</script>".toList

def fencedRight : Text := "é------<p>é</p>\n<script>x</script>".toList

theorem markup_independent_of_front_fenced :
    StandsAlone fencedRight 2 ∧ SameMarkup fencedLeft fencedRight 13 8 := by
  obtain ⟨halone, hsame⟩ := markup_independent_of_front
  constructor
  · exact halone fencedRight 2 ⟨['é'], _, rfl, by decide⟩
  · exact hsame fencedLeft fencedRight (.after []) (.after "---\nlet a\n".toList)
      (.after ['é']) (.after "é---".toList) (by decide) (by decide) (by decide)

end Tsx.Parts

end ComponentServer
