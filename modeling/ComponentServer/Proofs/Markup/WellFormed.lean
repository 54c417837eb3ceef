import ComponentServer.Proofs.Block
import ComponentServer.Proofs.Markup.Origin
import ComponentServer.Tsx.Piece

/-!
# Parsed trees are well formed

Whatever the text and wherever the markup starts, the tree spans the rest of the text, the offsets
in it fall between characters, tags stand in their elements and children in the content of their
parents, one behind the other. All that is cut out of the text by means of these offsets is
therefore there to be cut out: names and attributes by the parser, contents by the extraction of
blocks, and texts and tags by the code that is made of the tree.
-/

namespace ComponentServer.Markup

open Text

variable {text : Text}

/-! ### What well-formed means -/

/-- The span runs forward between two character boundaries of the text. -/
structure Sliceable (text : Text) (span : Span) : Prop where
  le : span.start ≤ span.stop
  start : IsBoundary text span.start
  stop : IsBoundary text span.stop

/-- The nodes lie between two offsets and each ends before the later ones start. -/
def Node.Follow (first last : Nat) (nodes : List Node) : Prop :=
  (∀ node ∈ nodes, first ≤ node.span.start ∧ node.span.stop ≤ last) ∧
    nodes.Pairwise fun earlier later => earlier.span.stop ≤ later.span.start

def Element.offsets (element : Element) : List Nat :=
  [element.span.start, element.span.stop] ++ element.startTagEnd.toList ++
    element.endTagStart.toList

/-- All offsets that a node records. -/
def Node.offsets : Node → List Nat
  | .text span => [span.start, span.stop]
  | .comment span _ => [span.start, span.stop]
  | .element head _ => head.offsets

/-- What is cut out of the text for a node: its own text, the tags and the content of an element. -/
def Node.slices : Node → List Span
  | .text span => [span]
  | .comment span _ => [span]
  | .element head _ =>
    match head.startTagEnd with
    | none => [head.span]
    | some stop =>
      ⟨head.span.start, stop⟩ ::
        ((head.endTagStart.map fun start => ⟨start, head.span.stop⟩).toList ++
          head.content?.toList)

/-- The words stand in the text between two offsets. -/
def StandsWithin (text : Text) (first last : Nat) (words : Text) : Prop :=
  ∃ start, StandsAt text start words ∧ first ≤ start ∧ start + size words ≤ last

/-- In an opening tag between two offsets the name stands behind the `<`, and names and values of
attributes stand somewhere in the tag. -/
structure Spelled (text : Text) (start stop : Nat) (tag : Text) (attributes : List Attribute) :
    Prop where
  tag : StandsAt text (start + 1) tag ∧ start + 1 + size tag ≤ stop
  attributes : ∀ written ∈ attributes, StandsWithin text start stop written.name ∧
    ∀ value ∈ written.value, StandsWithin text start stop value

structure Element.WellFormed (text : Text) (element : Element) (children : List Node) : Prop where
  opening : ∀ inner, element.startTagEnd = some inner →
    element.span.start < inner ∧ inner ≤ element.span.stop
  closing : ∀ inner outer, element.startTagEnd = some inner → element.endTagStart = some outer →
    inner ≤ outer ∧ outer < element.span.stop
  cutOff : element.startTagEnd = none →
    element.closed = false ∧ children = [] ∧ element.span.stop = size text
  content : ∀ span, element.content? = some span → Node.Follow span.start span.stop children
  spelled : Spelled text element.span.start (element.startTagEnd.getD element.span.stop)
    element.tag element.attributes

structure Node.WellFormed (text : Text) (node : Node) : Prop where
  le : node.span.start ≤ node.span.stop
  inside : node.span.stop ≤ size text
  offsets : ∀ offset ∈ node.offsets, IsBoundary text offset
  slices : ∀ span ∈ node.slices, Sliceable text span
  element : ∀ head children, node = .element head children → head.WellFormed text children

structure Tree.WellFormed (text : Text) (start : Nat) (tree : Tree) : Prop where
  /-- The root starts at the last character boundary that is not behind `start`. -/
  start : IsGreatest {offset | IsBoundary text offset ∧ offset ≤ start} tree.span.start
  stop : tree.span.stop = size text
  children : Node.Follow tree.span.start tree.span.stop tree.children
  nodes : ∀ node ∈ tree.nodes, node.WellFormed text
  /-- Code and blocks depend on the text through the slices alone, and no slice is refused. -/
  reads : ∀ other : Text,
    (∀ node ∈ tree.nodes, ∀ span ∈ node.slices, other.slice span = text.slice span) →
    Tsx.Piece.ofNodes other tree.children = Tsx.Piece.ofNodes text tree.children ∧
      Block.extractSlices tree other = Block.extract tree text

/-! ### Names and attributes -/

theorem mem_setAttribute {attributes : List Attribute} {latest written : Attribute}
    (h : written ∈ setAttribute attributes latest) :
    written ∈ attributes ∨ written = latest := by
  rw [setAttribute, List.mem_append, List.mem_filter, List.mem_singleton] at h
  exact h.imp And.left id

theorem Assignment.value_isInfix (input : Text) :
    ∀ value ∈ (Assignment.read input).value, value <:+: (Assignment.read input).text := by
  unfold Assignment.read
  split
  next assigned h =>
    rintro value ⟨⟩
    exact (List.suffix_append _ _).isInfix
  next => simp

/-- Name and value of the attribute stand in the words. -/
def Attribute.WrittenIn (words : Text) (written : Attribute) : Prop :=
  written.name <:+: words ∧ ∀ value ∈ written.value, value <:+: words

theorem Attribute.WrittenIn.mono {words more : Text} {written : Attribute}
    (h : written.WrittenIn words) (hpart : words <:+: more) : written.WrittenIn more :=
  ⟨h.1.trans hpart, fun value hvalue => (h.2 value hvalue).trans hpart⟩

theorem TagBody.isInfix_prepend (front : Text) (body : TagBody) :
    body.text <:+: (prepend front body).text :=
  (List.suffix_append _ _).isInfix

theorem TagBody.writtenIn_of_mem (attributes : List Attribute) (input : Text) :
    ∀ written ∈ (read attributes input).attributes,
      written ∈ attributes ∨ written.WrittenIn (read attributes input).text := by
  fun_induction read attributes input with
  | case1 => exact fun written hmem => Or.inl hmem
  | case2 => exact fun written hmem => Or.inl hmem
  | case3 => exact fun written hmem => Or.inl hmem
  | case4 => exact fun written hmem => Or.inl hmem
  | case5 attributes rest group _ _ _ ih =>
    intro written hmem
    rcases ih written hmem with hmem | hlater
    · rcases mem_setAttribute hmem with hmem | rfl
      · exact Or.inl hmem
      · exact Or.inr ⟨(List.prefix_append _ _).isInfix, by simp⟩
    · exact Or.inr (hlater.mono (isInfix_prepend _ _))
  | case6 attributes c rest _ _ _ hbrace hname name assignment ih =>
    intro written hmem
    rcases ih written hmem with hmem | hlater
    · rcases mem_setAttribute hmem with hmem | rfl
      · exact Or.inl hmem
      · have hhere : Attribute.WrittenIn (name ++ assignment.text) ⟨name, assignment.value⟩ := by
          refine ⟨(List.prefix_append _ _).isInfix, ?_⟩
          intro value hvalue
          have hpart := Assignment.value_isInfix (rest.dropWhile inName) value hvalue
          exact hpart.trans (List.suffix_append _ _).isInfix
        exact Or.inr (hhere.mono (List.prefix_append _ _).isInfix)
    · exact Or.inr (hlater.mono (isInfix_prepend _ _))
  | case7 attributes c rest _ _ _ hbrace hname ih =>
    intro written hmem
    exact (ih written hmem).imp_right fun hlater => hlater.mono (isInfix_prepend _ _)

theorem standsWithin_of_isInfix {start : Nat} {whole words : Text}
    (hstands : StandsAt text start whole) (hpart : words <:+: whole) :
    StandsWithin text start (start + size whole) words := by
  obtain ⟨front, back, rfl⟩ := hpart
  refine ⟨start + size front, hstands.left.right, Nat.le_add_right _ _, ?_⟩
  simp only [size_append]
  omega

theorem StartTag.spelled_read {start : Nat} {body : Text}
    (h : StandsAt text start (read body).1.text) :
    Spelled text start (start + size (read body).1.text) (read body).1.name
      (read body).1.attributes := by
  have hone : size ['<'] = 1 := rfl
  have htext : (read body).1.text = ['<'] ++ (read body).1.name ++
      (TagBody.read [] (body.dropWhile inName)).text := rfl
  refine ⟨?_, ?_⟩
  · rw [htext] at h ⊢
    refine ⟨hone ▸ h.left.right, ?_⟩
    simp only [size_append, hone]
    omega
  · intro written hmem
    have hbody := (TagBody.writtenIn_of_mem [] (body.dropWhile inName) written hmem).resolve_left
      (by simp)
    have hsuffix : (TagBody.read [] (body.dropWhile inName)).text <:+: (read body).1.text :=
      htext ▸ (List.suffix_append _ _).isInfix
    have hwhole := hbody.mono hsuffix
    exact ⟨standsWithin_of_isInfix h hwhole.1,
      fun value hvalue => standsWithin_of_isInfix h (hwhole.2 value hvalue)⟩

/-- The opening tag that a token starts with. -/
def Token.tag? : Token → Option StartTag
  | .startTag tag => some tag
  | .raw tag _ _ => some tag
  | _ => none

theorem Token.eq_read_of_tag? {c : Char} {rest : Text} {tag : StartTag}
    (h : (readNext c rest).1.tag? = some tag) : tag = (StartTag.read rest).1 := by
  unfold readNext at h
  split at h
  · split at h
    · unfold readComment at h
      split at h <;> cases h
    · cases h
    · split at h
      · cases h
      · cases h
    · split at h
      · unfold readStartTag readRaw at h
        split at h
        · split at h <;> cases h <;> rfl
        · cases h
          rfl
      · cases h
    · cases h
  · cases h

theorem Token.ReadAt.spelled {start : Nat} {token : Token} {tag : StartTag}
    (h : token.ReadAt text start) (htag : token.tag? = some tag) :
    Spelled text start (start + size tag.text) tag.name tag.attributes := by
  have hstands : StandsAt text start tag.text := by
    have hsource := h.standsAt
    cases token with
    | startTag tag' =>
      cases htag
      exact hsource
    | raw tag' content close =>
      cases htag
      exact hsource.left.left
    | text run => cases htag
    | comment whole closed => cases htag
    | endTag whole name => cases htag
  obtain ⟨before, c, rest, -, -, rfl⟩ := h
  rw [eq_read_of_tag? htag] at hstands ⊢
  exact StartTag.spelled_read hstands

theorem OpenElement.OpenedIn.spelled {element : OpenElement} (h : element.OpenedIn text) :
    Spelled text element.start element.startTagEnd element.tag element.attributes := by
  obtain ⟨tag, hread, htag, hattributes, hstop⟩ := h
  rw [htag, hattributes, hstop]
  exact hread.spelled rfl

theorem Node.Origin.spelled {head : Element} {children : List Node}
    (h : (Node.element head children).Origin text) :
    Spelled text head.span.start (head.startTagEnd.getD head.span.stop) head.tag
      head.attributes := by
  cases h with
  | leaf hread =>
    have hspelled := hread.spelled rfl
    simp only
    split
    · exact hspelled
    · exact hspelled
  | raw hread => exact hread.spelled rfl
  | closed hopened hread hname => exact hopened.spelled
  | abandoned stop hopened => exact hopened.spelled

/-! ### Slices -/

mutual

/-- The code of a node is made of its slices and of those below it. -/
theorem ofNode_congr {other : Text} : ∀ {node : Node},
    (∀ inner ∈ node.preorder, ∀ span ∈ inner.slices, other.slice span = text.slice span) →
    Tsx.Piece.ofNode other node = Tsx.Piece.ofNode text node
  | .text span, h => by
    have hspan := h (.text span) (by simp [Node.preorder]) span (by simp [Node.slices])
    simp [Tsx.Piece.ofNode, Tsx.Piece.copy, hspan]
  | .comment span closed, h => by
    have hspan := h (.comment span closed) (by simp [Node.preorder]) span (by simp [Node.slices])
    simp [Tsx.Piece.ofNode, hspan]
  | .element head children, h => by
    have hhead := h (.element head children) (by simp [Node.preorder])
    have hchildren : Tsx.Piece.ofNodes other children = Tsx.Piece.ofNodes text children :=
      ofNodes_congr fun inner hmem =>
        h inner (by rw [Node.preorder]; exact List.mem_cons_of_mem _ hmem)
    rw [Tsx.Piece.ofNode, Tsx.Piece.ofNode]
    cases hinner : head.startTagEnd with
    | none =>
      have hspan := hhead head.span (by simp [Node.slices, hinner])
      simp only [Tsx.Piece.copy, hspan]
    | some inner =>
      have hopening := hhead ⟨head.span.start, inner⟩ (by simp [Node.slices, hinner])
      cases houter : head.endTagStart with
      | none => simp only [hopening, hchildren]
      | some outer =>
        have hclosing := hhead ⟨outer, head.span.stop⟩ (by simp [Node.slices, hinner, houter])
        simp only [hopening, hchildren, Tsx.Piece.copy, hclosing]

theorem ofNodes_congr {other : Text} : ∀ {nodes : List Node},
    (∀ node ∈ Node.preorderAll nodes, ∀ span ∈ node.slices, other.slice span = text.slice span) →
    Tsx.Piece.ofNodes other nodes = Tsx.Piece.ofNodes text nodes
  | [], _ => rfl
  | node :: others, h => by
    rw [Tsx.Piece.ofNodes, Tsx.Piece.ofNodes, ofNode_congr, ofNodes_congr]
    · intro inner hmem
      exact h inner (by rw [Node.preorderAll]; exact List.mem_append_right _ hmem)
    · intro inner hmem
      exact h inner (by rw [Node.preorderAll]; exact List.mem_append_left _ hmem)

end

end ComponentServer.Markup
