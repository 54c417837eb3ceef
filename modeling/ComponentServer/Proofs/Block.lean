import ComponentServer.Proofs.Markup.Rendering
import ComponentServer.Proofs.Text.Cut

/-!
# Blocks follow the tokens

Every block comes from one token: a tag with plain content, or a script or style that closes itself.
So the blocks of a tree can be read off the tokens, with the offsets at which these stand, and the
contents of any two of them have at least the opening tag of the later one between them.
-/

namespace ComponentServer

open Text Markup

def BlockKind.ofName? (name : Text) : Option BlockKind :=
  if name.equalsIgnoringCase scriptTag then some .script
  else if name.equalsIgnoringCase styleTag then some .style
  else none

theorem BlockKind.ofName?_eq_none {name : Text} (h : isRawTag name = false) :
    ofName? name = none := by
  simp only [isRawTag, Bool.or_eq_false_iff] at h
  simp [ofName?, h.1, h.2]

theorem BlockKind.isRawTag_of_ofName? {name : Text} {kind : BlockKind}
    (h : ofName? name = some kind) : isRawTag name = true := by
  by_contra hraw
  rw [ofName?_eq_none (Bool.eq_false_of_not_eq_true hraw)] at h
  cases h

theorem BlockKind.lower_of_ofName? {name : Text} {kind : BlockKind}
    (h : ofName? name = some kind) : lower kind.tag = lower name := by
  unfold ofName? at h
  split at h
  next hscript =>
    cases h
    exact (equalsIgnoringCase_iff.mp hscript).symm
  next =>
    split at h
    next hstyle =>
      cases h
      exact (equalsIgnoringCase_iff.mp hstyle).symm
    next => cases h

/-- The block of an element whose content is known to stand between characters. -/
def Block.ofSlices? (text : Text) (element : Element) : Option Block := do
  let kind ← kindOf? element
  let span ← element.content?
  return ofContent element kind span (text.slice span)

/-- No slice is refused where the tags stand between characters. -/
theorem Block.ofElement?_eq_ofSlices? {text : Text} {element : Element}
    (h : element.Placed text) : ofElement? text element = ofSlices? text element := by
  rw [ofElement?, ofSlices?]
  cases kindOf? element with
  | none => rfl
  | some kind =>
    cases hspan : element.content? with
    | none => rfl
    | some span =>
      obtain ⟨-, hinside, hstart, hstop⟩ := h.content hspan
      have hle := h.inside_le.2.1
      rw [hinside] at hle
      have hget : get? text span = some (slice text span) :=
        get?_eq_some_iff.mpr ⟨⟨hle, hstart, hstop⟩, rfl⟩
      simp only [Option.bind_eq_bind, Option.bind_some, hget]

/-- Scripts and styles are the elements with raw content. -/
theorem Block.map_span_ofSlices? (text : Text) (element : Element) :
    (ofSlices? text element).map span =
      if element.isRaw then element.content? else none := by
  simp only [ofSlices?, kindOf?, Element.isRaw, isRawTag]
  by_cases hscript : element.tag.equalsIgnoringCase scriptTag = true
  · cases element.content? <;> simp [ofContent, hscript]
  · by_cases hstyle : element.tag.equalsIgnoringCase styleTag = true
    · cases element.content? <;> simp [ofContent, hscript, hstyle]
    · simp [hscript, hstyle]

/-- The block of a tag at `start` that is followed by its content and a closing tag. -/
def Block.ofTag? (start : Nat) (tag : StartTag) (content close : Text) (closed : Bool) :
    Option Block :=
  (BlockKind.ofName? tag.name).map fun kind =>
    { kind := kind
      content := content
      span := ⟨start + size tag.text, start + size tag.text + size content⟩
      attributes := tag.attributes.map fun written =>
        (written.name, (written.value.map unquote).getD written.name)
      container := ⟨start, start + size tag.text + size content + size close⟩
      closed := closed }

namespace Markup

/-- The block of a token that starts at `start`. -/
def Token.block? (start : Nat) : Token → Option Block
  | .raw tag content close => Block.ofTag? start tag content (close.getD []) close.isSome
  | .startTag tag => if tag.terminated then Block.ofTag? start tag [] [] true else none
  | _ => none

/-- The blocks of tokens that follow each other from `start` on. -/
def Token.blocks (start : Nat) : List Token → List Block
  | [] => []
  | token :: others => (token.block? start).toList ++ blocks (start + size token.source) others

def Node.block? (text : Text) : Node → Option Block
  | .element head _ => Block.ofSlices? text head
  | _ => none

theorem Node.block?_eq_none {text : Text} {head : Element} {children : List Node}
    (h : isRawTag head.tag = false) : (Node.element head children).block? text = none := by
  have hkind : Block.kindOf? head = none := BlockKind.ofName?_eq_none h
  simp [Node.block?, Block.ofSlices?, hkind]

end Markup

namespace Block

/-- The blocks of the tree, all contents taken as the slices they are. -/
def extractSlices (tree : Tree) (text : Text) : List Block :=
  tree.elements.filterMap (ofSlices? text)

theorem extract_parse (text : Text) (start : Nat) :
    extract (Tree.parse text start) text = extractSlices (Tree.parse text start) text := by
  apply List.filterMap_congr
  intro element hmem
  exact ofElement?_eq_ofSlices? (Tree.placed_of_mem_elements hmem)

theorem extractSlices_eq_filterMap (tree : Tree) (text : Text) :
    extractSlices tree text = (Node.preorderAll tree.children).filterMap (Node.block? text) := by
  rw [extractSlices, Tree.elements, Tree.nodes_eq_preorderAll, List.filterMap_filterMap]
  congr 1
  funext node
  cases node <;> rfl

/-- Blocks go with the tags of their own elements; those of other elements give nothing. -/
def rendering (text : Text) : Rendering Block where
  nodes nodes := (Node.preorderAll nodes).filterMap (Node.block? text)
  tag _ _ := []
  missing _ := []
  nodes_append front back := by
    induction front with
    | nil => rfl
    | cons node others ih =>
      rw [List.cons_append, Node.preorderAll, Node.preorderAll, List.filterMap_append,
        List.filterMap_append, ih, List.append_assoc]
  nodes_close element start stop h := by
    have hnone : (element.close start stop).block? text = none := Node.block?_eq_none h.notRaw
    have hpreorder : (element.close start stop).preorder =
        element.close start stop :: Node.preorderAll element.children := by
      rw [OpenElement.close, Node.preorder]
    simp [Node.preorderAll, hpreorder, hnone]
  nodes_abandon element stop h := by
    have hnone : (element.abandon stop).block? text = none := Node.block?_eq_none h.notRaw
    have hpreorder : (element.abandon stop).preorder =
        element.abandon stop :: Node.preorderAll element.children := by
      rw [OpenElement.abandon, Node.preorder]
    simp [Node.preorderAll, hpreorder, hnone]

theorem nodes_element {text : Text} {head : Element} {children : List Node}
    (hchildren : children = [] ∨ ∃ span, children = [.text span]) :
    (rendering text).nodes [.element head children] = (ofSlices? text head).toList := by
  have hnone : (Node.preorderAll children).filterMap (Node.block? text) = [] := by
    rcases hchildren with rfl | ⟨span, rfl⟩ <;> rfl
  cases hblock : ofSlices? text head <;>
    simp [rendering, Node.preorderAll, Node.preorder, Node.block?, hblock, hnone]

theorem kindOf?_eq_ofName? (element : Element) :
    kindOf? element = BlockKind.ofName? element.tag := rfl

theorem nodes_rawElement {text : Text} {start : Nat} {tag : StartTag} {content : Text}
    {close : Option Text} (hstands : StandsAt text (start + size tag.text) content) :
    (rendering text).nodes [Builder.rawElement tag content close start] =
      ((Token.raw tag content close).block? start).toList := by
  have hmax : max ((close.map fun _ => start + size tag.text + size content).getD
      (start + size tag.text + size content + size (close.getD []))) (start + size tag.text) =
      start + size tag.text + size content := by
    cases close <;> simp
  have hslice := hstands.slice_eq
  rw [Builder.rawElement, nodes_element (by split <;> simp)]
  simp only [ofSlices?, kindOf?_eq_ofName?, Element.content?, Option.map_some, hmax]
  rw [Token.block?, ofTag?]
  cases BlockKind.ofName? tag.name <;> simp [ofContent, hslice]

theorem nodes_leaf (text : Text) (start : Nat) (tag : StartTag) :
    (rendering text).nodes [Builder.leaf tag start] =
      ((Token.startTag tag).block? start).toList := by
  rw [Builder.leaf, nodes_element (Or.inl rfl)]
  simp only [ofSlices?, kindOf?_eq_ofName?, Element.content?]
  rw [Token.block?, ofTag?]
  cases hterminated : tag.terminated
  · cases BlockKind.ofName? tag.name <;> simp
  · cases BlockKind.ofName? tag.name <;> simp [ofContent, slice, Span.length]

theorem rendering_tokens {names : List Text} {before : Text} {tokens : List Markup.Token}
    (hcomplete : ∀ token ∈ tokens, token.Complete) :
    (rendering (before ++ tokens.flatMap Token.source)).tokens names (size before) tokens =
      Token.blocks (size before) tokens := by
  induction tokens generalizing names before with
  | nil => simp [Rendering.tokens, Token.blocks, rendering]
  | cons token others ih =>
    have hhere : (rendering (before ++ (token :: others).flatMap Token.source)).token names
        (size before) token = (token.block? (size before)).toList := by
      have htoken := hcomplete token (by simp)
      cases token with
      | text run => rw [Rendering.token]; split <;> rfl
      | comment whole closed => rfl
      | endTag whole name => rw [Rendering.token]; split <;> simp [rendering, Token.block?]
      | raw tag content close =>
        refine nodes_rawElement ⟨before ++ tag.text, close.getD [] ++
          others.flatMap Token.source, ?_, size_append _ _⟩
        simp [Token.source]
      | startTag tag =>
        rw [Rendering.token]
        split
        · exact nodes_leaf _ _ tag
        next hopen =>
          have hraw := (StartTag.ordinary_of_isLeaf_eq_false
            (Bool.eq_false_of_not_eq_true hopen) htoken.2).2
          simp [rendering, Token.block?, ofTag?, BlockKind.ofName?_eq_none hraw]
    have hothers := @ih (token.openNames names) (before ++ token.source)
      fun other hother => hcomplete other (List.mem_cons_of_mem _ hother)
    rw [size_append, List.append_assoc, ← List.flatMap_cons] at hothers
    rw [Rendering.tokens, Token.blocks, hhere, hothers]

/-- The blocks of a parsed text are those of its tokens. -/
theorem extractSlices_ofMarkup (before markup : Text) :
    extractSlices (Tree.ofMarkup (size before) markup) (before ++ markup) =
      Token.blocks (size before) (Token.scan markup) := by
  have htokens := @rendering_tokens [] before _ (Token.complete_of_mem_scan markup)
  rw [Token.flatMap_source_scan] at htokens
  rw [extractSlices_eq_filterMap, ← htokens]
  exact (rendering (before ++ markup)).nodes_ofMarkup (size before) markup

/-! ### Apart from each other -/

theorem placed_of_ofTag? {start : Nat} {tag : StartTag} {content close : Text} {closed : Bool}
    {block : Block} (h : ofTag? start tag content close closed = some block) :
    block.span = ⟨start + size tag.text, start + size tag.text + size content⟩ := by
  obtain ⟨kind, -, rfl⟩ := Option.map_eq_some_iff.mp h
  rfl

/-- The content of a token's block stands inside the token, behind its first character. -/
theorem placed_of_block? {start : Nat} {token : Markup.Token} {block : Block}
    (hcomplete : token.Complete) (h : token.block? start = some block) :
    start < block.span.start ∧ block.span.start ≤ block.span.stop ∧
      block.span.stop ≤ start + size token.source := by
  cases token with
  | text run => cases h
  | comment whole closed => cases h
  | endTag whole name => cases h
  | raw tag content close =>
    have hpos := size_pos_iff.mpr hcomplete.1
    rw [placed_of_ofTag? h]
    simp only [Token.source, size_append]
    omega
  | startTag tag =>
    have hpos := size_pos_iff.mpr hcomplete.1
    rw [Token.block?] at h
    split at h
    · rw [placed_of_ofTag? h]
      simp only [Token.source, size_nil]
      omega
    · cases h

theorem lt_of_mem_blocks {start : Nat} {tokens : List Markup.Token}
    (hcomplete : ∀ token ∈ tokens, token.Complete) :
    ∀ block ∈ Token.blocks start tokens,
      start < block.span.start ∧ block.span.start ≤ block.span.stop := by
  induction tokens generalizing start with
  | nil => simp [Token.blocks]
  | cons token others ih =>
    intro block hmem
    rcases List.mem_append.mp hmem with hmem | hmem
    · have hplaced := placed_of_block? (hcomplete token (by simp)) (Option.mem_toList.mp hmem)
      exact ⟨hplaced.1, hplaced.2.1⟩
    · have hlater := ih (fun other hother => hcomplete other (List.mem_cons_of_mem _ hother))
        block hmem
      exact ⟨by omega, hlater.2⟩

/-- No two contents touch, not even at their ends. -/
theorem pairwise_blocks {start : Nat} {tokens : List Markup.Token}
    (hcomplete : ∀ token ∈ tokens, token.Complete) :
    (Token.blocks start tokens).Pairwise fun earlier later =>
      earlier.span.stop < later.span.start := by
  induction tokens generalizing start with
  | nil => exact List.Pairwise.nil
  | cons token others ih =>
    have hothers := fun other hother => hcomplete other (List.mem_cons_of_mem _ hother)
    refine List.pairwise_append.mpr ⟨?_, ih hothers, ?_⟩
    · cases token.block? start <;> simp
    · intro earlier hearlier later hlater
      have hplaced := placed_of_block? (hcomplete token (by simp)) (Option.mem_toList.mp hearlier)
      have hbehind := lt_of_mem_blocks hothers later hlater
      omega

/-- The contents stand one behind the other, with something between any two. -/
structure Separate (blocks : List Block) : Prop where
  le : ∀ block ∈ blocks, block.span.start ≤ block.span.stop
  lt : blocks.Pairwise fun earlier later => earlier.span.stop < later.span.start

theorem exists_extract_eq_blocks (text : Text) (start : Nat) :
    ∃ before markup, text = before ++ markup ∧
      extract (Tree.parse text start) text =
        Token.blocks (size before) (Token.scan markup) := by
  obtain ⟨before, markup, htext, hsize⟩ := isBoundary_floorBoundary text start
  refine ⟨before, markup, htext, ?_⟩
  rw [extract_parse, Tree.parse_eq_ofMarkup, ← hsize, htext, dropBytes_append_size]
  exact extractSlices_ofMarkup before markup

theorem separate_extract (text : Text) (start : Nat) :
    Separate (extract (Tree.parse text start) text) := by
  obtain ⟨before, markup, -, hblocks⟩ := exists_extract_eq_blocks text start
  have hcomplete := Token.complete_of_mem_scan markup
  rw [hblocks]
  exact ⟨fun block hmem => (lt_of_mem_blocks hcomplete block hmem).2, pairwise_blocks hcomplete⟩

namespace Separate

variable {blocks : List Block} {left right : Block} {offset : Nat}

/-- An offset, even one at the end, is in the content of one block at most. -/
theorem eq_of_contains (h : Separate blocks) (hleft : left ∈ blocks) (hright : right ∈ blocks)
    (hin : left.contains offset = true) (hin' : right.contains offset = true) : left = right := by
  let Alike : Block → Block → Prop := fun earlier later =>
    earlier.contains offset = true → later.contains offset = true → earlier = later
  have hsymm : Std.Symm Alike := ⟨fun _ _ h hlater hearlier => (h hearlier hlater).symm⟩
  have hpairwise : blocks.Pairwise Alike := by
    refine h.lt.imp ?_
    intro earlier later hlt hearlier hlater
    simp only [contains, Bool.and_eq_true, decide_eq_true_eq] at hearlier hlater
    omega
  exact hpairwise.forall_of_forall (fun _ _ _ _ => rfl) hleft hright hin hin'

theorem nodup (h : Separate blocks) : blocks.Nodup := by
  refine h.lt.imp_of_mem ?_
  rintro earlier later hearlier - hlt rfl
  have hle := h.le earlier hearlier
  omega

end Separate

/-! ### Without their places -/

/-- The block without its place in the document. -/
def unplaced (block : Block) : Block := { block with span := ⟨0, 0⟩, container := ⟨0, 0⟩ }

end Block

namespace Markup.Token

theorem blocks_append (start : Nat) (front back : List Token) :
    blocks start (front ++ back) =
      blocks start front ++ blocks (start + size (front.flatMap source)) back := by
  induction front generalizing start with
  | nil => simp [blocks]
  | cons token others ih => simp [blocks, ih, Nat.add_assoc]

theorem map_unplaced_blocks (start start' : Nat) (tokens : List Token) :
    (blocks start tokens).map Block.unplaced = (blocks start' tokens).map Block.unplaced := by
  induction tokens generalizing start start' with
  | nil => rfl
  | cons token others ih =>
    have hhere : (token.block? start).toList.map Block.unplaced =
        (token.block? start').toList.map Block.unplaced := by
      cases token with
      | text run => rfl
      | comment whole closed => rfl
      | endTag whole name => rfl
      | raw tag content close =>
        rw [block?, block?, Block.ofTag?, Block.ofTag?]
        cases BlockKind.ofName? tag.name <;> rfl
      | startTag tag =>
        rw [block?, block?, Block.ofTag?, Block.ofTag?]
        cases tag.terminated <;> cases BlockKind.ofName? tag.name <;> rfl
    rw [blocks, blocks, List.map_append, List.map_append, hhere, ih]

/-- Each block has its token, with the tokens of the others around it. -/
theorem exists_of_blocks_eq {start : Nat} {tokens : List Token} {before after : List Block}
    {block : Block} (h : blocks start tokens = before ++ block :: after) :
    ∃ front token back, tokens = front ++ token :: back ∧ blocks start front = before ∧
      token.block? (start + size (front.flatMap source)) = some block ∧
      blocks (start + size (front.flatMap source) + size token.source) back = after := by
  induction tokens generalizing start before with
  | nil => simp [blocks] at h
  | cons token others ih =>
    have hlater : ∀ rest, blocks (start + size token.source) others = rest ++ block :: after →
        (token.block? start).toList ++ rest = before →
        ∃ front found back, token :: others = front ++ found :: back ∧ blocks start front = before ∧
          found.block? (start + size (front.flatMap source)) = some block ∧
          blocks (start + size (front.flatMap source) + size found.source) back = after := by
      intro rest hrest hbefore
      obtain ⟨front, found, back, rfl, rfl, hfound, hback⟩ := ih hrest
      refine ⟨token :: front, found, back, rfl, hbefore, ?_, ?_⟩
      · simpa [Nat.add_assoc] using hfound
      · simpa [Nat.add_assoc] using hback
    rw [blocks] at h
    cases hblock : token.block? start with
    | none =>
      rw [hblock] at h hlater
      exact hlater before h rfl
    | some first =>
      rw [hblock] at h hlater
      cases before with
      | nil =>
        obtain ⟨rfl, hafter⟩ := List.cons.inj h
        exact ⟨[], token, others, rfl, rfl, by simpa using hblock, by simpa using hafter⟩
      | cons other before =>
        obtain ⟨rfl, hrest⟩ := List.cons.inj h
        exact hlater before hrest rfl

end Markup.Token

end ComponentServer
