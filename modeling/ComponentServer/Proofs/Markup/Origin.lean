import ComponentServer.Proofs.Markup.Layout

/-!
# Where the nodes of a tree come from

The builder makes nodes from tokens only: a run of text, a comment, a tag that has no content, an
element with plain content, and, for a tag that was pushed, the element that a later closing tag
completes or that is given up. Every node of a parsed tree is one of these, and each of the tokens
named was read in the text at the offset that the node says.
-/

namespace ComponentServer.Markup

open Text

variable {text : Text}

/-- The token is what reading at the offset gives. -/
def Token.ReadAt (text : Text) (start : Nat) (token : Token) : Prop :=
  ∃ before c rest, text = before ++ c :: rest ∧ size before = start ∧
    token = (readNext c rest).1

theorem Token.ReadAt.standsAt {start : Nat} {token : Token} (h : token.ReadAt text start) :
    StandsAt text start token.source := by
  obtain ⟨before, c, rest, rfl, rfl, rfl⟩ := h
  refine ⟨before, (readNext c rest).2, ?_, rfl⟩
  rw [List.append_assoc, readNext_append]

/-- The opening tag of an open element was read where the element starts. -/
def OpenElement.OpenedIn (text : Text) (element : OpenElement) : Prop :=
  ∃ tag, (Token.startTag tag).ReadAt text element.start ∧ element.tag = tag.name ∧
    element.attributes = tag.attributes ∧ element.startTagEnd = element.start + size tag.text

theorem OpenElement.OpenedIn.append {element : OpenElement} (h : element.OpenedIn text)
    (nodes : List Node) : (element.append nodes).OpenedIn text := h

/-- The tokens that a node was made from. -/
inductive Node.Origin (text : Text) : Node → Prop
  | text {start : Nat} {run : Text} : (Token.text run).ReadAt text start →
      Origin text (.text ⟨start, start + size run⟩)
  | comment {start : Nat} {whole : Text} {closed : Bool} :
      (Token.comment whole closed).ReadAt text start →
      Origin text (.comment ⟨start, start + size whole⟩ closed)
  | leaf {start : Nat} {tag : StartTag} : (Token.startTag tag).ReadAt text start →
      Origin text (Builder.leaf tag start)
  | raw {start : Nat} {tag : StartTag} {content : Text} {close : Option Text} :
      (Token.raw tag content close).ReadAt text start →
      Origin text (Builder.rawElement tag content close start)
  | content {start : Nat} {tag : StartTag} {content : Text} {close : Option Text} :
      (Token.raw tag content close).ReadAt text start → content ≠ [] →
      Origin text (.text ⟨start + size tag.text, start + size tag.text + size content⟩)
  | closed {element : OpenElement} {start : Nat} {whole name : Text} : element.OpenedIn text →
      (Token.endTag whole name).ReadAt text start → element.tag.equalsIgnoringCase name = true →
      Origin text (element.close start (start + size whole))
  | abandoned {element : OpenElement} (stop : Nat) : element.OpenedIn text →
      Origin text (element.abandon stop)

/-! ### What holds of every node -/

/-- The property holds of the nodes and of all nodes below them. -/
def Node.Every (property : Node → Prop) (nodes : List Node) : Prop :=
  ∀ node ∈ Node.preorderAll nodes, property node

section Every

variable {property : Node → Prop} {opened : OpenElement → Prop}

namespace Node.Every

theorem nil : Every property [] := by simp [Every, Node.preorderAll]

theorem append {front back : List Node} (hfront : Every property front)
    (hback : Every property back) : Every property (front ++ back) := by
  intro node hmem
  rw [Node.preorderAll_append, List.mem_append] at hmem
  exact hmem.elim (hfront node) (hback node)

theorem single_element {head : Element} {children : List Node}
    (hhead : property (.element head children)) (hchildren : Every property children) :
    Every property [.element head children] := by
  intro node hmem
  simp only [Node.preorderAll, Node.preorder, List.append_nil, List.mem_cons] at hmem
  rcases hmem with rfl | hmem
  · exact hhead
  · exact hchildren node hmem

theorem single_text {span : Span} (h : property (.text span)) : Every property [.text span] := by
  simpa [Every, Node.preorderAll, Node.preorder] using h

theorem single_comment {span : Span} {closed : Bool} (h : property (.comment span closed)) :
    Every property [.comment span closed] := by
  simpa [Every, Node.preorderAll, Node.preorder] using h

end Node.Every

namespace Builder

/-- One property holds of the complete nodes, another of the open elements. -/
structure Every (property : Node → Prop) (opened : OpenElement → Prop) (builder : Builder) :
    Prop where
  top : Node.Every property builder.top
  stack : ∀ element ∈ builder.stack, opened element ∧ Node.Every property element.children

variable {top nodes : List Node} {stack : List OpenElement} {start stop : Nat}

theorem every_append
    (happend : ∀ (element : OpenElement) nodes, opened element → opened (element.append nodes))
    (h : Every property opened ⟨top, stack⟩) (hnodes : Node.Every property nodes) :
    Every property opened (append ⟨top, stack⟩ nodes) := by
  obtain ⟨htop, hstack⟩ := h
  cases stack with
  | nil => exact ⟨htop.append hnodes, hstack⟩
  | cons element outer =>
    obtain ⟨hopened, hchildren⟩ := hstack element (by simp)
    refine ⟨htop, ?_⟩
    intro other hother
    rcases List.mem_cons.mp hother with rfl | hother
    · exact ⟨happend _ _ hopened, hchildren.append hnodes⟩
    · exact hstack other (List.mem_cons_of_mem _ hother)

theorem every_closeIn {name : Text}
    (happend : ∀ (element : OpenElement) nodes, opened element → opened (element.append nodes))
    (hclose : ∀ element, opened element → element.tag.equalsIgnoringCase name = true →
      property (element.close start stop))
    (habandon : ∀ element, opened element → property (element.abandon start))
    (h : Every property opened ⟨top, stack⟩) (hnodes : Node.Every property nodes) :
    Every property opened (closeIn name start stop top nodes stack) := by
  induction stack generalizing nodes with
  | nil => exact ⟨h.top.append hnodes, by simp [closeIn]⟩
  | cons element outer ih =>
    obtain ⟨hopened, hchildren⟩ := h.stack element (by simp)
    have houter : Every property opened ⟨top, outer⟩ :=
      ⟨h.top, fun other hother => h.stack other (List.mem_cons_of_mem _ hother)⟩
    have hinside := happend element nodes hopened
    rw [closeIn]
    split
    next hname =>
      exact every_append happend houter
        (.single_element (hclose _ hinside hname) (hchildren.append hnodes))
    next =>
      exact ih houter (.single_element (habandon _ hinside) (hchildren.append hnodes))

theorem every_finishIn
    (happend : ∀ (element : OpenElement) nodes, opened element → opened (element.append nodes))
    (habandon : ∀ element, opened element → property (element.abandon stop))
    (h : Every property opened ⟨top, stack⟩) (hnodes : Node.Every property nodes) :
    Node.Every property (finishIn stop top nodes stack) := by
  induction stack generalizing nodes with
  | nil => exact h.top.append hnodes
  | cons element outer ih =>
    obtain ⟨hopened, hchildren⟩ := h.stack element (by simp)
    refine ih ⟨h.top, fun other hother => h.stack other (List.mem_cons_of_mem _ hother)⟩ ?_
    exact .single_element (habandon _ (happend _ _ hopened)) (hchildren.append hnodes)

end Builder

end Every

/-! ### Origins -/

namespace Builder

/-- The complete nodes have an origin, and the open elements were opened in the text. -/
abbrev Origin (text : Text) : Builder → Prop := Every (Node.Origin text) (OpenElement.OpenedIn text)

variable {start : Nat}

theorem every_rawElement {property : Node → Prop} {tag : StartTag} {content : Text}
    {close : Option Text} (helement : property (rawElement tag content close start))
    (hcontent : content ≠ [] →
      property (.text ⟨start + size tag.text, start + size tag.text + size content⟩)) :
    Node.Every property [rawElement tag content close start] := by
  refine .single_element helement ?_
  split
  · exact .nil
  next hne => exact .single_text (hcontent (by simpa using hne))

/-- One token adds nodes that come from it. -/
theorem Origin.add {builder : Builder} {token : Token} (h : builder.Origin text)
    (hread : token.ReadAt text start) : (builder.add start token).Origin text := by
  cases token with
  | text run =>
    rw [Builder.add]
    split
    · exact h
    · exact every_append (fun _ _ => id) h (.single_text (.text hread))
  | comment whole closed =>
    exact every_append (fun _ _ => id) h (.single_comment (.comment hread))
  | endTag whole name =>
    rw [Builder.add, Builder.close]
    split
    · refine every_closeIn (fun _ _ => id) ?_ ?_ h .nil
      · exact fun element hopened hname => .closed hopened hread hname
      · exact fun element hopened => .abandoned start hopened
    · exact h
  | raw tag content close =>
    exact every_append (fun _ _ => id) h (every_rawElement (.raw hread) (.content hread))
  | startTag tag =>
    rw [Builder.add]
    split
    · exact every_append (fun _ _ => id) h (.single_element (.leaf hread) .nil)
    · refine ⟨h.top, ?_⟩
      intro element hmem
      rcases List.mem_cons.mp hmem with rfl | hmem
      · exact ⟨⟨tag, hread, rfl, rfl, rfl⟩, .nil⟩
      · exact h.stack element hmem

theorem Origin.addAll_scan {builder : Builder} {before input : Text}
    (h : builder.Origin (before ++ input)) :
    (builder.addAll (size before) (Token.scan input)).Origin (before ++ input) := by
  induction input using Token.scan.induct generalizing builder before with
  | case1 => simpa [Token.scan, addAll] using h
  | case2 c rest next =>
    rename_i ih
    have hread : (Token.readNext c rest).1.ReadAt (before ++ c :: rest) (size before) :=
      ⟨before, c, rest, rfl, rfl, rfl⟩
    have hstep := h.add hread
    rw [Token.scan, addAll, ← size_append]
    have hsplit : before ++ c :: rest =
        before ++ (Token.readNext c rest).1.source ++ (Token.readNext c rest).2 := by
      rw [List.append_assoc, Token.readNext_append]
    rw [hsplit] at hstep ⊢
    exact ih hstep

end Builder

/-- Every node of a parsed tree comes from tokens of the text. -/
theorem Tree.origin_of_mem_nodes {start : Nat} {node : Node}
    (h : node ∈ (Tree.parse text start).nodes) : node.Origin text := by
  obtain ⟨before, markup, htext, hsize⟩ := isBoundary_floorBoundary text start
  have hmarkup : dropBytes (size before) text = markup := by
    rw [htext, dropBytes_append_size]
  have hempty : Builder.empty.Origin (before ++ markup) := ⟨.nil, by simp [Builder.empty]⟩
  have hall := Builder.every_finishIn (fun _ _ => id)
    (fun element hopened => .abandoned (size before + size markup) hopened) hempty.addAll_scan .nil
  rw [Tree.nodes_eq_preorderAll, Tree.parse_eq_ofMarkup, ← hsize] at h
  simp only [Tree.ofMarkup, Builder.finish, hmarkup] at h
  rw [htext]
  exact hall node h

end ComponentServer.Markup
