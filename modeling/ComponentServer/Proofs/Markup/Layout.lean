import ComponentServer.Proofs.Markup.Reader

/-!
# Where the nodes of a tree stand

Tokens follow each other without a gap, so the builder always knows the offset it has come to. The
invariant says that what is complete lies in order in front of that offset, level by level: inside
the innermost open element its children, in front of that element those of the next one, and so on
down to the top. A closing tag folds some of these levels, the end of the input folds all of them.
-/

namespace ComponentServer.Markup

open Text

/-! ### What it means to be placed -/

/-- What lies between the tags; an element that is cut off in its opening tag has nothing there. -/
def Element.inside (element : Element) : Span :=
  element.content?.getD ⟨element.span.stop, element.span.stop⟩

/-- The tags of an element stand inside it, one behind the other, and between characters. -/
structure Element.Placed (text : Text) (element : Element) : Prop where
  start : IsBoundary text element.span.start
  stop : IsBoundary text element.span.stop
  lt : element.span.start < element.span.stop
  opening : ∀ inner, element.startTagEnd = some inner →
    element.span.start < inner ∧ inner ≤ element.span.stop ∧ IsBoundary text inner
  closing : ∀ outer, element.endTagStart = some outer →
    outer < element.span.stop ∧ IsBoundary text outer ∧ element.closed = true ∧
      ∃ inner, element.startTagEnd = some inner ∧ inner ≤ outer
  /-- Only the end of the input cuts an opening tag off. -/
  cutOff : element.startTagEnd = none → element.closed = false ∧ element.span.stop = size text
  /-- An element without content ends with its opening tag. -/
  bare : element.selfClosing = true ∨ element.isVoid = true →
    ∀ inner, element.startTagEnd = some inner → inner = element.span.stop

mutual

/-- The node stands between characters of the text, and its children in order inside it. -/
def Node.Placed (text : Text) : Node → Prop
  | .text span => span.start < span.stop ∧ IsBoundary text span.start ∧ IsBoundary text span.stop
  | .comment span _ =>
    span.start < span.stop ∧ IsBoundary text span.start ∧ IsBoundary text span.stop
  | .element head children =>
    head.Placed text ∧ Node.InOrder text head.inside.start head.inside.stop children ∧
      (head.isRaw = true → children = [] ∨ ∃ span, children = [.text span])

/-- The nodes are placed one behind the other between two offsets. -/
def Node.InOrder (text : Text) (first last : Nat) : List Node → Prop
  | [] => first ≤ last
  | node :: others =>
    first ≤ node.span.start ∧ node.Placed text ∧ Node.InOrder text node.span.stop last others

end

variable {text : Text}

theorem Node.Placed.lt {node : Node} (h : node.Placed text) : node.span.start < node.span.stop := by
  cases node with
  | text span => exact h.1
  | comment span closed => exact h.1
  | element head children => exact h.1.lt

namespace Node.InOrder

theorem le {first last : Nat} {nodes : List Node} (h : InOrder text first last nodes) :
    first ≤ last := by
  induction nodes generalizing first with
  | nil => exact h
  | cons node others ih =>
    obtain ⟨hfirst, hnode, hothers⟩ := h
    have hlt := hnode.lt
    have hle := ih hothers
    omega

theorem append {first middle last : Nat} {front back : List Node}
    (hfront : InOrder text first middle front) (hback : InOrder text middle last back) :
    InOrder text first last (front ++ back) := by
  induction front generalizing first with
  | nil =>
    cases back with
    | nil => exact Nat.le_trans hfront hback
    | cons node others => exact ⟨Nat.le_trans hfront hback.1, hback.2⟩
  | cons node others ih => exact ⟨hfront.1, hfront.2.1, ih hfront.2.2⟩

theorem extend {first last further : Nat} {nodes : List Node} (h : InOrder text first last nodes)
    (hle : last ≤ further) : InOrder text first further nodes := by
  have hback : InOrder text last further [] := hle
  simpa using h.append hback

theorem single {first last : Nat} {node : Node} (hnode : node.Placed text)
    (hfirst : first ≤ node.span.start) (hlast : node.span.stop ≤ last) :
    InOrder text first last [node] := ⟨hfirst, hnode, hlast⟩

theorem eq_nil {first : Nat} {nodes : List Node} (h : InOrder text first first nodes) :
    nodes = [] := by
  cases nodes with
  | nil => rfl
  | cons node others =>
    obtain ⟨hfirst, hnode, hothers⟩ := h
    have hlt := hnode.lt
    have hle := le hothers
    omega

end Node.InOrder

theorem Element.Placed.inside_le {element : Element} (h : element.Placed text) :
    element.span.start < element.inside.start ∧ element.inside.start ≤ element.inside.stop ∧
      element.inside.stop ≤ element.span.stop := by
  cases hinner : element.startTagEnd with
  | none =>
    have hlt := h.lt
    simp [inside, content?, hinner, hlt]
  | some inner =>
    obtain ⟨hlt, hle, -⟩ := h.opening inner hinner
    cases houter : element.endTagStart with
    | none =>
      simp only [inside, content?, hinner, houter, Option.map_some, Option.getD_some,
        Option.getD_none]
      omega
    | some outer =>
      obtain ⟨houterLt, -, -, inner', hinner', houterLe⟩ := h.closing outer houter
      simp only [inside, content?, hinner, houter, Option.map_some, Option.getD_some]
      omega

/-- The content of a placed element stands between characters behind its opening tag. -/
theorem Element.Placed.content {element : Element} (h : element.Placed text) {span : Span}
    (hspan : element.content? = some span) :
    element.startTagEnd = some span.start ∧ element.inside = span ∧
      IsBoundary text span.start ∧ IsBoundary text span.stop := by
  have hinside : element.inside = span := by rw [inside, hspan, Option.getD_some]
  obtain ⟨inner, hinner, rfl⟩ := Option.map_eq_some_iff.mp hspan
  obtain ⟨-, hle, hboundary⟩ := h.opening inner hinner
  refine ⟨hinner, hinside, hboundary, ?_⟩
  cases houter : element.endTagStart with
  | none =>
    simp only [Option.getD_none, Nat.max_eq_left hle]
    exact h.stop
  | some outer =>
    obtain ⟨-, houterBoundary, -, inner', hinner', houterLe⟩ := h.closing outer houter
    rw [hinner, Option.some.injEq] at hinner'
    subst hinner'
    simpa [Nat.max_eq_left houterLe] using houterBoundary

mutual

theorem Node.Placed.of_mem_preorder :
    ∀ {node : Node}, node.Placed text → ∀ inner ∈ node.preorder, inner.Placed text
  | .text span, h, inner, hmem => by
    rw [preorder, List.mem_singleton] at hmem
    exact hmem ▸ h
  | .comment span closed, h, inner, hmem => by
    rw [preorder, List.mem_singleton] at hmem
    exact hmem ▸ h
  | .element head children, h, inner, hmem => by
    rw [preorder, List.mem_cons] at hmem
    rcases hmem with rfl | hmem
    · exact h
    · exact InOrder.of_mem_preorderAll h.2.1 inner hmem

theorem Node.InOrder.of_mem_preorderAll :
    ∀ {nodes : List Node} {first last : Nat}, InOrder text first last nodes →
      ∀ inner ∈ Node.preorderAll nodes, inner.Placed text
  | [], first, last, h, inner, hmem => by simp [Node.preorderAll] at hmem
  | node :: others, first, last, h, inner, hmem => by
    rw [Node.preorderAll, List.mem_append] at hmem
    rcases hmem with hmem | hmem
    · exact Placed.of_mem_preorder h.2.1 inner hmem
    · exact InOrder.of_mem_preorderAll h.2.2 inner hmem

end

mutual

theorem Node.Placed.bounds_of_mem_preorder :
    ∀ {node : Node}, node.Placed text → ∀ inner ∈ node.preorder,
      node.span.start ≤ inner.span.start ∧ inner.span.stop ≤ node.span.stop
  | .text span, _, inner, hmem => by
    rw [preorder, List.mem_singleton] at hmem
    rw [hmem]
    exact ⟨Nat.le_refl _, Nat.le_refl _⟩
  | .comment span closed, _, inner, hmem => by
    rw [preorder, List.mem_singleton] at hmem
    rw [hmem]
    exact ⟨Nat.le_refl _, Nat.le_refl _⟩
  | .element head children, h, inner, hmem => by
    rw [preorder, List.mem_cons] at hmem
    rcases hmem with rfl | hmem
    · exact ⟨Nat.le_refl _, Nat.le_refl _⟩
    · have hinside := h.1.inside_le
      have hbounds := InOrder.bounds_of_mem_preorderAll h.2.1 inner hmem
      change head.span.start ≤ _ ∧ _ ≤ head.span.stop
      omega

theorem Node.InOrder.bounds_of_mem_preorderAll :
    ∀ {nodes : List Node} {first last : Nat}, InOrder text first last nodes →
      ∀ inner ∈ Node.preorderAll nodes, first ≤ inner.span.start ∧ inner.span.stop ≤ last
  | [], first, last, h, inner, hmem => by simp [Node.preorderAll] at hmem
  | node :: others, first, last, h, inner, hmem => by
    obtain ⟨hfirst, hnode, hothers⟩ := h
    have hlt := hnode.lt
    have hle := hothers.le
    rw [Node.preorderAll, List.mem_append] at hmem
    rcases hmem with hmem | hmem
    · have hbounds := Placed.bounds_of_mem_preorder hnode inner hmem
      omega
    · have hbounds := InOrder.bounds_of_mem_preorderAll hothers inner hmem
      omega

end

/-- An element that ends with its opening tag has neither content nor a closing tag. -/
theorem Element.Placed.endTagStart_eq_none {element : Element} (h : element.Placed text)
    (hbare : ∀ inner, element.startTagEnd = some inner → inner = element.span.stop) :
    element.endTagStart = none ∧ element.inside = ⟨element.span.stop, element.span.stop⟩ := by
  have hnone : element.endTagStart = none := by
    cases houter : element.endTagStart with
    | none => rfl
    | some outer =>
      obtain ⟨hlt, -, -, inner, hinner, hle⟩ := h.closing outer houter
      have hinnerStop := hbare inner hinner
      omega
  refine ⟨hnone, ?_⟩
  cases hinner : element.startTagEnd with
  | none => simp [Element.inside, Element.content?, hinner]
  | some inner =>
    have hinnerStop := hbare inner hinner
    simp [Element.inside, Element.content?, hinner, hnone, hinnerStop]

/-! ### Tokens -/

namespace Token

/-- What reading promises of a token in front of `rest`. Plain content goes with the tag that opens
it, and only the end of the input leaves a tag open. -/
def WellRead (rest : Text) : Token → Prop
  | .startTag tag => tag.opensRaw = false ∧ (tag.terminated = false → rest = [])
  | .raw tag _ close => tag.opensRaw = true ∧ tag.text ≠ [] ∧ close ≠ some []
  | _ => True

theorem wellRead_readText (c : Char) (rest : Text) :
    (readText c rest).1.WellRead (readText c rest).2 := trivial

theorem wellRead_readComment (body : Text) :
    (readComment body).1.WellRead (readComment body).2 := by
  unfold readComment
  split <;> trivial

/-- The closing tag of plain content is found at its `<`. -/
theorem exists_cons_of_cutIgnoringCase? {n : Char} {needle text before after : Text}
    (h : cutIgnoringCase? (n :: needle) text = some (before, after)) :
    ∃ c rest, after = c :: rest := by
  unfold cutIgnoringCase? at h
  induction text generalizing before with
  | nil => simp [cutWhere?, startsIgnoringCase] at h
  | cons c rest ih =>
    simp only [cutWhere?] at h
    split at h
    · simp only [Option.some.injEq, Prod.mk.injEq] at h
      exact ⟨c, rest, h.2.symm⟩
    · obtain ⟨halves, hcut, heq⟩ := Option.map_eq_some_iff.mp h
      injection heq with hbefore hafter
      subst hafter
      exact ih hcut

theorem wellRead_readRaw {tag : StartTag} (hraw : tag.opensRaw = true) (htext : tag.text ≠ [])
    (input : Text) : (readRaw tag input).1.WellRead (readRaw tag input).2 := by
  unfold readRaw
  split
  next content rest hcut =>
    obtain ⟨c, rest', rfl⟩ := exists_cons_of_cutIgnoringCase? hcut
    refine ⟨hraw, htext, ?_⟩
    simp only [splitThrough]
    split <;> simp
  next => exact ⟨hraw, htext, by simp⟩

theorem wellRead_readStartTag (body : Text) :
    (readStartTag body).1.WellRead (readStartTag body).2 := by
  unfold readStartTag
  split
  next hraw => exact wellRead_readRaw hraw (by simp [StartTag.read]) _
  next hraw =>
    refine ⟨by simpa using hraw, ?_⟩
    intro hterminated
    apply TagBody.rest_eq_nil
    simpa [StartTag.terminated, StartTag.read] using hterminated

theorem wellRead_readNext (c : Char) (rest : Text) :
    (readNext c rest).1.WellRead (readNext c rest).2 := by
  unfold readNext
  split
  · split
    · exact wellRead_readComment _
    · trivial
    · split
      · trivial
      · exact wellRead_readText _ _
    · split
      · exact wellRead_readStartTag _
      · exact wellRead_readText _ _
    · exact wellRead_readText _ _
  · exact wellRead_readText _ _

end Token

/-! ### The builder -/

/-- An open element has its whole opening tag, and may have content that is not plain. -/
structure OpenElement.Placed (text : Text) (element : OpenElement) : Prop where
  start : IsBoundary text element.start
  inner : IsBoundary text element.startTagEnd
  lt : element.start < element.startTagEnd
  notVoid : isVoidTag element.tag = false
  notRaw : isRawTag element.tag = false

@[simp]
theorem OpenElement.start_append (element : OpenElement) (nodes : List Node) :
    (element.append nodes).start = element.start := rfl

theorem OpenElement.Placed.append {element : OpenElement} (h : element.Placed text)
    (nodes : List Node) : (element.append nodes).Placed text :=
  ⟨h.start, h.inner, h.lt, h.notVoid, h.notRaw⟩

theorem OpenElement.Placed.close {element : OpenElement} (h : element.Placed text)
    {outer stop : Nat} (hchildren : Node.InOrder text element.startTagEnd outer element.children)
    (houter : IsBoundary text outer) (hstop : IsBoundary text stop) (hlt : outer < stop) :
    (element.close outer stop).Placed text := by
  have hle := hchildren.le
  have hstart := h.lt
  refine ⟨?_, ?_, ?_⟩
  · refine ⟨h.start, hstop, by simp only; omega, ?_, ?_, ?_, ?_⟩
    · rintro inner ⟨⟩
      exact ⟨h.lt, by simp only; omega, h.inner⟩
    · rintro outer ⟨⟩
      exact ⟨hlt, houter, rfl, _, rfl, hle⟩
    · intro hcutOff
      cases hcutOff
    · rintro (hself | hvoid)
      · cases hself
      · exact absurd hvoid (by simp [Element.isVoid, h.notVoid])
  · have hmax : max outer element.startTagEnd = outer := Nat.max_eq_left hle
    simpa [Element.inside, Element.content?, hmax] using hchildren
  · intro hraw
    exact absurd hraw (by simp [Element.isRaw, h.notRaw])

theorem OpenElement.Placed.abandon {element : OpenElement} (h : element.Placed text) {stop : Nat}
    (hchildren : Node.InOrder text element.startTagEnd stop element.children)
    (hstop : IsBoundary text stop) :
    (element.abandon stop).Placed text ∧ (element.abandon stop).span = ⟨element.start, stop⟩ := by
  have hle := hchildren.le
  have hstart := h.lt
  have hmax : max stop element.startTagEnd = stop := Nat.max_eq_left hle
  refine ⟨⟨?_, ?_, ?_⟩, by simp [OpenElement.abandon, Node.span, hmax]⟩
  · refine ⟨h.start, by simpa [hmax] using hstop, by simp only [hmax]; omega, ?_, ?_, ?_, ?_⟩
    · rintro inner ⟨⟩
      exact ⟨h.lt, by simp only [hmax]; omega, h.inner⟩
    · intro outer hclosed
      cases hclosed
    · intro hcutOff
      cases hcutOff
    · rintro (hself | hvoid)
      · cases hself
      · exact absurd hvoid (by simp [Element.isVoid, h.notVoid])
  · simpa [Element.inside, Element.content?, hmax] using hchildren
  · intro hraw
    exact absurd hraw (by simp [Element.isRaw, h.notRaw])

namespace Builder

variable {first here there : Nat} {top nodes : List Node} {stack : List OpenElement}

/-- With the open elements of `stack` the builder has come to an offset: the children of each stand
in order behind its opening tag, those of the innermost up to the offset and those of every other up
to the open element inside it. -/
def ComeTo (text : Text) (first : Nat) (top : List Node) : Nat → List OpenElement → Prop
  | here, [] => Node.InOrder text first here top
  | here, element :: outer =>
    element.Placed text ∧ Node.InOrder text element.startTagEnd here element.children ∧
      ComeTo text first top element.start outer

/-- The invariant of the builder. -/
def Placed (text : Text) (first here : Nat) (builder : Builder) : Prop :=
  ComeTo text first builder.top here builder.stack

theorem ComeTo.advance (h : ComeTo text first top here stack) (hle : here ≤ there) :
    ComeTo text first top there stack := by
  cases stack with
  | nil => exact Node.InOrder.extend h hle
  | cons element outer => exact ⟨h.1, h.2.1.extend hle, h.2.2⟩

theorem ComeTo.append (h : ComeTo text first top here stack)
    (hnodes : Node.InOrder text here there nodes) :
    (append ⟨top, stack⟩ nodes).Placed text first there := by
  cases stack with
  | nil => exact Node.InOrder.append h hnodes
  | cons element outer => exact ⟨h.1.append nodes, h.2.1.append hnodes, h.2.2⟩

theorem ComeTo.closeIn {name : Text} {outer stop : Nat} (h : ComeTo text first top here stack)
    (hnodes : Node.InOrder text here outer nodes) (houter : IsBoundary text outer)
    (hstop : IsBoundary text stop) (hlt : outer < stop) :
    (closeIn name outer stop top nodes stack).Placed text first stop := by
  induction stack generalizing here nodes with
  | nil =>
    have hall := Node.InOrder.append h hnodes
    exact hall.extend (Nat.le_of_lt hlt)
  | cons element stack ih =>
    obtain ⟨helement, hchildren, hstack⟩ := h
    have happended := helement.append nodes
    have hinside := hchildren.append hnodes
    simp only [Builder.closeIn]
    split
    -- The tag closes this element: the levels outside it are as they were.
    · have hclosed := happended.close hinside houter hstop hlt
      exact hstack.append (.single hclosed (Nat.le_refl _) (Nat.le_refl _))
    -- It closes one further out: this element ends in front of the tag and goes to its parent.
    · obtain ⟨hleft, hspan⟩ := happended.abandon hinside houter
      apply ih hstack
      exact .single hleft (by simp [hspan]) (by simp [hspan])

theorem ComeTo.finishIn {stop : Nat} (h : ComeTo text first top here stack)
    (hnodes : Node.InOrder text here stop nodes) (hstop : IsBoundary text stop) :
    Node.InOrder text first stop (finishIn stop top nodes stack) := by
  induction stack generalizing here nodes with
  | nil => exact Node.InOrder.append h hnodes
  | cons element stack ih =>
    obtain ⟨helement, hchildren, hstack⟩ := h
    obtain ⟨hleft, hspan⟩ := (helement.append nodes).abandon (hchildren.append hnodes) hstop
    apply ih hstack
    exact .single hleft (by simp [hspan]) (by simp [hspan])

theorem placed_leaf {tag : StartTag} {rest : Text} (hstands : StandsAt text here tag.text)
    (hne : tag.text ≠ []) (hread : (Token.startTag tag).WellRead rest)
    (hrest : rest = [] → here + size tag.text = size text) : (leaf tag here).Placed text := by
  have hpos := size_pos_iff.mpr hne
  refine ⟨⟨hstands.isBoundary_start, hstands.isBoundary_stop, by simp only; omega, ?_, ?_, ?_, ?_⟩,
    ?_, fun _ => Or.inl rfl⟩
  · intro inner hinner
    cases hterminated : tag.terminated <;> simp [hterminated] at hinner
    subst hinner
    exact ⟨by simp only; omega, Nat.le_refl _, hstands.isBoundary_stop⟩
  · intro outer hclosed
    cases hclosed
  · intro hnone
    cases hterminated : tag.terminated <;> simp [hterminated] at hnone
    exact ⟨rfl, hrest (hread.2 hterminated)⟩
  · intro _ inner hinner
    cases hterminated : tag.terminated <;> simp [hterminated] at hinner
    exact hinner.symm
  · cases hterminated : tag.terminated <;>
      simp [Element.inside, Element.content?, Node.InOrder]

theorem placed_rawElement {tag : StartTag} {content : Text} {close : Option Text} {rest : Text}
    (hstands : StandsAt text here (Token.raw tag content close).source)
    (hread : (Token.raw tag content close).WellRead rest) :
    (rawElement tag content close here).Placed text ∧
      (rawElement tag content close here).span =
        ⟨here, here + size (Token.raw tag content close).source⟩ := by
  obtain ⟨hraw, hne, hclose⟩ := hread
  have hpos := size_pos_iff.mpr hne
  simp only [StartTag.opensRaw, Bool.and_eq_true, Bool.not_eq_true'] at hraw
  -- No name is both raw and void, so the element may have content.
  have hvoid := isVoidTag_eq_false_of_isRawTag hraw.1.1
  have hsize : size (Token.raw tag content close).source =
      size tag.text + size content + size (close.getD []) := by
    simp only [Token.source, size_append]
  have hinner := hstands.left.left.isBoundary_stop
  have houter : IsBoundary text (here + size tag.text + size content) := by
    have hstop := hstands.left.isBoundary_stop
    rwa [size_append, ← Nat.add_assoc] at hstop
  have hstop : IsBoundary text (here + size tag.text + size content + size (close.getD [])) := by
    have hstop := hstands.isBoundary_stop
    rwa [hsize, ← Nat.add_assoc, ← Nat.add_assoc] at hstop
  refine ⟨⟨⟨hstands.isBoundary_start, hstop, by simp only; omega, ?_, ?_, ?_, ?_⟩, ?_, ?_⟩, ?_⟩
  · rintro inner ⟨⟩
    exact ⟨by simp only; omega, by simp only; omega, hinner⟩
  · intro outer houter'
    obtain ⟨whole, hwhole, rfl⟩ := Option.map_eq_some_iff.mp houter'
    have hwholePos : 0 < size whole := by
      rw [size_pos_iff]
      rintro rfl
      exact hclose hwhole
    refine ⟨?_, houter, by simp [hwhole], _, rfl, by omega⟩
    simp only [hwhole, Option.getD_some]
    omega
  · intro hcut
    cases hcut
  · rintro (hself | helement)
    · cases hself
    · exact absurd helement (by simp [Element.isVoid, hvoid])
  · have hcontent : ∀ inside : Nat, inside = here + size tag.text + size content →
        Node.InOrder text (here + size tag.text) inside
          (if content.isEmpty then []
            else [.text ⟨here + size tag.text, here + size tag.text + size content⟩]) := by
      rintro inside rfl
      cases content with
      | nil => simp [Node.InOrder]
      | cons c content =>
        have hlt : 0 < size (c :: content) := size_pos_iff.mpr (by simp)
        exact .single ⟨by simp only; omega, hinner, houter⟩ (Nat.le_refl _) (Nat.le_refl _)
    cases close with
    | none => exact hcontent _ (by simp [Element.inside, Element.content?])
    | some whole => exact hcontent _ (by simp [Element.inside, Element.content?])
  · intro _
    split
    · exact Or.inl rfl
    · exact Or.inr ⟨_, rfl⟩
  · rw [hsize]
    simp only [rawElement, Node.span]
    exact congrArg (Span.mk here) (by omega)

/-- One token takes the builder from its start to its end. -/
theorem Placed.add {builder : Builder} {token : Token} {rest : Text}
    (h : builder.Placed text first here) (hstands : StandsAt text here token.source)
    (hne : token.source ≠ []) (hread : token.WellRead rest)
    (hrest : rest = [] → here + size token.source = size text) :
    (builder.add here token).Placed text first (here + size token.source) := by
  have hpos := size_pos_iff.mpr hne
  have hstart := hstands.isBoundary_start
  have hstop := hstands.isBoundary_stop
  have hle : here ≤ here + size token.source := Nat.le_add_right _ _
  cases token with
  | text run =>
    simp only [Builder.add]
    split
    · exact ComeTo.advance h hle
    · refine ComeTo.append h (.single ⟨?_, hstart, hstop⟩ (Nat.le_refl _) (Nat.le_refl _))
      simp only [Token.source] at hpos ⊢
      omega
  | comment whole closed =>
    refine ComeTo.append h (.single ⟨?_, hstart, hstop⟩ (Nat.le_refl _) (Nat.le_refl _))
    simp only [Token.source] at hpos ⊢
    omega
  | endTag whole name =>
    simp only [Builder.add, Builder.close]
    split
    · exact ComeTo.closeIn h (Nat.le_refl _) hstart hstop (Nat.lt_add_of_pos_right hpos)
    · exact ComeTo.advance h hle
  | raw tag content close =>
    obtain ⟨hplaced, hspan⟩ := placed_rawElement hstands hread
    refine ComeTo.append h (.single hplaced ?_ ?_)
    · exact Nat.le_of_eq (by rw [hspan])
    · exact Nat.le_of_eq (by rw [hspan])
  | startTag tag =>
    simp only [Builder.add]
    split
    · exact ComeTo.append h (.single (placed_leaf hstands hne hread hrest) (Nat.le_refl _)
        (Nat.le_refl _))
    next hpushed =>
      simp only [Bool.or_eq_true, Bool.not_eq_true', not_or, Bool.not_eq_true,
        Bool.not_eq_false] at hpushed
      obtain ⟨⟨hterminated, hself⟩, hvoid⟩ := hpushed
      have hraw : isRawTag tag.name = false := by
        have hopens := hread.1
        simpa [StartTag.opensRaw, hterminated, hself] using hopens
      refine ⟨⟨hstart, hstop, ?_, hvoid, hraw⟩, Nat.le_refl _, h⟩
      simp only [Token.source] at hpos ⊢
      omega

/-- The first tokens of a scan take the builder to where they end. -/
theorem Placed.addAll {builder : Builder} {before input : Text} {front back : List Token}
    (h : builder.Placed (before ++ input) first (size before))
    (hscan : Token.scan input = front ++ back) :
    (builder.addAll (size before) front).Placed (before ++ input) first
      (size (before ++ front.flatMap Token.source)) := by
  induction front generalizing builder before input with
  | nil => simpa [Builder.addAll] using h
  | cons token front ih =>
    cases input with
    | nil => simp [Token.scan] at hscan
    | cons c rest =>
      rw [Token.scan, List.cons_append, List.cons.injEq] at hscan
      obtain ⟨rfl, hrest⟩ := hscan
      have hsplit : before ++ c :: rest =
          before ++ (Token.readNext c rest).1.source ++ (Token.readNext c rest).2 := by
        rw [List.append_assoc, Token.readNext_append]
      have hlast : (Token.readNext c rest).2 = [] →
          size before + size (Token.readNext c rest).1.source = size (before ++ c :: rest) := by
        intro hnil
        rw [hsplit, hnil]
        simp
      have hstands : StandsAt (before ++ c :: rest) (size before)
          (Token.readNext c rest).1.source := by
        rw [hsplit]
        exact standsAt_append _ _ _
      have hstep := h.add hstands (Token.readNext_source_ne_nil c rest)
        (Token.wellRead_readNext c rest) hlast
      rw [Builder.addAll, List.flatMap_cons, ← List.append_assoc, ← size_append]
      rw [hsplit, ← size_append] at hstep
      rw [hsplit]
      exact ih hstep hrest

end Builder

/-! ### Trees -/

/-- **The nodes of a parsed tree are placed in order from the start of the markup to the end of the
text.** -/
theorem Tree.inOrder_parse (text : Text) (start : Nat) :
    Node.InOrder text (floorBoundary text start) (size text) (Tree.parse text start).children := by
  obtain ⟨before, markup, htext, hsize⟩ := isBoundary_floorBoundary text start
  have hmarkup : dropBytes (size before) text = markup := by
    rw [htext, dropBytes_append_size]
  have hempty : Builder.empty.Placed (before ++ markup) (size before) (size before) :=
    Nat.le_refl (size before)
  have hnothing : Node.InOrder (before ++ markup) (size (before ++ markup))
      (size (before ++ markup)) [] := Nat.le_refl _
  have hplaced := hempty.addAll (List.append_nil (Token.scan markup)).symm
  rw [Token.flatMap_source_scan] at hplaced
  have hfinished := Builder.ComeTo.finishIn hplaced hnothing (isBoundary_end _)
  rw [Tree.parse_eq_ofMarkup, ← hsize]
  simp only [Tree.ofMarkup, Builder.finish, hmarkup]
  rw [← size_append, htext]
  exact hfinished

theorem Tree.mem_elements_iff {tree : Tree} {element : Element} :
    element ∈ tree.elements ↔
      ∃ children, Node.element element children ∈ Node.preorderAll tree.children := by
  rw [Tree.elements, Tree.nodes_eq_preorderAll, List.mem_filterMap]
  constructor
  · rintro ⟨node, hmem, hnode⟩
    cases node with
    | text span => cases hnode
    | comment span closed => cases hnode
    | element head children =>
      cases hnode
      exact ⟨children, hmem⟩
  · rintro ⟨children, hmem⟩
    exact ⟨_, hmem, rfl⟩

theorem Tree.placed_of_mem_elements {start : Nat} {element : Element}
    (h : element ∈ (Tree.parse text start).elements) : element.Placed text := by
  obtain ⟨children, hmem⟩ := Tree.mem_elements_iff.mp h
  exact ((Tree.inOrder_parse text start).of_mem_preorderAll _ hmem).1

end ComponentServer.Markup
