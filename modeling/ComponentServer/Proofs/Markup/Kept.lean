import ComponentServer.Block
import ComponentServer.Proofs.Markup.Layout
import ComponentServer.Proofs.Text.Spans

/-!
# What of the markup is kept

Outside scripts and styles, the texts and the tags of a tree are kept; comments are not. The kept
stretches and the contents of the scripts and styles follow each other through the document, so no
two of them overlap, in whatever order they are taken.
-/

namespace ComponentServer.Markup

open Text

variable {text : Text}

/-- The opening tag as far as it is kept. A void element that does not close itself gives up its
bracket; a tag that is cut off is kept to the end of the input. -/
def Element.keptOpening (text : Text) (element : Element) : Span :=
  match element.startTagEnd with
  | none => element.span
  | some stop =>
    if element.isVoid && !element.selfClosing &&
        (text.slice ⟨element.span.start, stop⟩).getLast? == some '>' then
      ⟨element.span.start, stop - 1⟩
    else ⟨element.span.start, stop⟩

/-- The closing tag of a closed element. -/
def Element.keptClosing? (element : Element) : Option Span :=
  if element.closed then element.endTagStart.map fun start => ⟨start, element.span.stop⟩ else none

/-- What is kept of the node itself: a text, or the tags of an element. -/
def Node.keptHere (text : Text) : Node → List Span
  | .text span => [span]
  | .comment _ _ => []
  | .element head _ => head.keptOpening text :: head.keptClosing?.toList

mutual

/-- The node and the nodes below it that are not the content of a script or style. -/
def Node.outside : Node → List Node
  | .text span => [.text span]
  | .comment span closed => [.comment span closed]
  | .element head children =>
    .element head children :: if head.isRaw then [] else Node.outsideAll children

def Node.outsideAll : List Node → List Node
  | [] => []
  | node :: others => node.outside ++ Node.outsideAll others

end

mutual

/-- What is kept of the node and of the nodes below it, in document order. -/
def Node.kept (text : Text) : Node → List Span
  | .text span => [span]
  | .comment _ _ => []
  | .element head children =>
    head.keptOpening text :: (if head.isRaw then [] else Node.keptAll text children) ++
      head.keptClosing?.toList

def Node.keptAll (text : Text) : List Node → List Span
  | [] => []
  | node :: others => node.kept text ++ Node.keptAll text others

end

mutual

theorem Node.mem_kept_iff {span : Span} : ∀ {node : Node},
    span ∈ node.kept text ↔ ∃ inner ∈ node.outside, span ∈ inner.keptHere text
  | .text _ => by simp [kept, outside, keptHere]
  | .comment _ _ => by simp [kept, outside, keptHere]
  | .element head children => by
    cases hraw : head.isRaw with
    | true => simp [kept, outside, keptHere, hraw]
    | false =>
      have hchildren := @Node.mem_keptAll_iff span children
      rw [kept, outside, hraw, if_neg (by simp), if_neg (by simp), List.cons_append, List.mem_cons,
        List.mem_append, hchildren]
      constructor
      · rintro (rfl | ⟨inner, hinner, hmem⟩ | hmem)
        · exact ⟨_, List.mem_cons_self, List.mem_cons_self⟩
        · exact ⟨inner, List.mem_cons_of_mem _ hinner, hmem⟩
        · exact ⟨_, List.mem_cons_self, List.mem_cons_of_mem _ hmem⟩
      · rintro ⟨inner, hinner, hmem⟩
        rcases List.mem_cons.mp hinner with rfl | hinner
        · rcases List.mem_cons.mp hmem with hmem | hmem
          · exact Or.inl hmem
          · exact Or.inr (Or.inr hmem)
        · exact Or.inr (Or.inl ⟨inner, hinner, hmem⟩)

theorem Node.mem_keptAll_iff {span : Span} : ∀ {nodes : List Node},
    span ∈ Node.keptAll text nodes ↔ ∃ node ∈ Node.outsideAll nodes, span ∈ node.keptHere text
  | [] => by simp [keptAll, outsideAll]
  | node :: others => by
    have hnode := @Node.mem_kept_iff span node
    have hothers := @Node.mem_keptAll_iff span others
    simp only [keptAll, outsideAll, List.mem_append, hnode, hothers, or_and_right, exists_or]

end

/-- Of an element that ends with its opening tag nothing else is kept. -/
theorem Node.Placed.kept_bare {head : Element} {children : List Node}
    (h : (Node.element head children).Placed text)
    (hbare : ∀ inner, head.startTagEnd = some inner → inner = head.span.stop) :
    (Node.element head children).kept text = [head.keptOpening text] := by
  obtain ⟨hnone, hinside⟩ := h.1.endTagStart_eq_none hbare
  have hchildren : children = [] := by
    have hinOrder := h.2.1
    rw [hinside] at hinOrder
    exact hinOrder.eq_nil
  have hclosing : head.keptClosing? = none := by simp [Element.keptClosing?, hnone]
  simp [Node.kept, hchildren, hclosing, Node.keptAll]

/-! ### Kept stretches and raw contents in document order -/

/-- The content of a script or style. -/
def Node.rawContent? : Node → Option Span
  | .element head _ => if head.isRaw then head.content? else none
  | _ => none

/-- The contents of the scripts and styles among and below the nodes. -/
def Node.rawContents (nodes : List Node) : List Span :=
  (Node.preorderAll nodes).filterMap Node.rawContent?

mutual

/-- The kept stretches and the raw contents of a node, in document order. -/
def Node.stretches (text : Text) : Node → List Span
  | .text span => [span]
  | .comment _ _ => []
  | .element head children =>
    head.keptOpening text ::
      (if head.isRaw then head.content?.toList else Node.stretchesAll text children) ++
      head.keptClosing?.toList

def Node.stretchesAll (text : Text) : List Node → List Span
  | [] => []
  | node :: others => node.stretches text ++ Node.stretchesAll text others

end

mutual

theorem Node.kept_sublist (text : Text) : ∀ node : Node,
    (node.kept text).Sublist (node.stretches text)
  | .text _ => List.Sublist.refl _
  | .comment _ _ => List.Sublist.refl _
  | .element head children => by
    rw [kept, stretches]
    refine List.Sublist.append (List.Sublist.cons_cons _ ?_) (List.Sublist.refl _)
    split
    · exact List.nil_sublist _
    · exact Node.keptAll_sublist text children

theorem Node.keptAll_sublist (text : Text) : ∀ nodes : List Node,
    (Node.keptAll text nodes).Sublist (Node.stretchesAll text nodes)
  | [] => List.Sublist.refl _
  | node :: others => (Node.kept_sublist text node).append (Node.keptAll_sublist text others)

end

theorem Element.Placed.inLine_keptOpening {element : Element} (h : element.Placed text) :
    Span.InLine element.span.start element.inside.start [element.keptOpening text] := by
  have hlt := h.lt
  have hinside := h.inside_le
  cases hinner : element.startTagEnd with
  | none =>
    have hstart : element.inside.start = element.span.stop := by
      simp [Element.inside, Element.content?, hinner]
    simp only [keptOpening, hinner, Span.InLine]
    omega
  | some inner =>
    have hstart : element.inside.start = inner := by
      simp [Element.inside, Element.content?, hinner]
    obtain ⟨hinnerLt, -⟩ := h.opening inner hinner
    simp only [keptOpening, hinner]
    split
    · simp only [Span.InLine]
      omega
    · simp only [Span.InLine]
      omega

theorem Element.Placed.inLine_keptClosing {element : Element} (h : element.Placed text) :
    Span.InLine element.inside.stop element.span.stop element.keptClosing?.toList := by
  have hinside := h.inside_le
  cases hclosed : element.closed with
  | false =>
    simp only [keptClosing?, hclosed, Bool.false_eq_true, if_false, Option.toList_none, Span.InLine]
    omega
  | true =>
    cases houter : element.endTagStart with
    | none =>
      simp only [keptClosing?, hclosed, houter, if_true, Option.map_none, Option.toList_none,
        Span.InLine]
      omega
    | some outer =>
      obtain ⟨hlt, -, -, inner, hinner, hle⟩ := h.closing outer houter
      have hstop : element.inside.stop = outer := by
        simp [Element.inside, Element.content?, hinner, houter, Nat.max_eq_left hle]
      simp only [keptClosing?, hclosed, houter, if_true, Option.map_some, Option.toList_some,
        Span.InLine]
      omega

mutual

theorem Node.Placed.inLine_stretches : ∀ {node : Node}, node.Placed text →
    Span.InLine node.span.start node.span.stop (node.stretches text)
  | .text span, h => by
    have hlt := h.1
    simp only [stretches, Node.span, Span.InLine]
    omega
  | .comment span closed, h => Nat.le_of_lt h.1
  | .element head children, h => by
    obtain ⟨hhead, hchildren, -⟩ := h
    have hmiddle : Span.InLine head.inside.start head.inside.stop
        (if head.isRaw then head.content?.toList else Node.stretchesAll text children) := by
      split
      · cases hcontent : head.content? with
        | none => exact hhead.inside_le.2.1
        | some content =>
          obtain ⟨-, hinside, -⟩ := hhead.content hcontent
          have hle := hhead.inside_le.2.1
          rw [hinside] at hle ⊢
          exact ⟨Nat.le_refl _, hle, Nat.le_refl _⟩
      · exact InOrder.inLine_stretchesAll hchildren
    exact (hhead.inLine_keptOpening.append hmiddle).append hhead.inLine_keptClosing

theorem Node.InOrder.inLine_stretchesAll : ∀ {nodes : List Node} {first last : Nat},
    InOrder text first last nodes → Span.InLine first last (Node.stretchesAll text nodes)
  | [], first, last, h => h
  | node :: others, first, last, h => by
    have hnode := Placed.inLine_stretches h.2.1
    have hothers := InOrder.inLine_stretchesAll h.2.2
    exact (hnode.widen h.1 (Nat.le_refl _)).append hothers

end

mutual

theorem Node.Placed.stretches_perm : ∀ {node : Node}, node.Placed text →
    (node.stretches text).Perm (node.kept text ++ node.preorder.filterMap Node.rawContent?)
  | .text span, _ => by simp [stretches, kept, preorder, rawContent?]
  | .comment span closed, _ => by simp [stretches, kept, preorder, rawContent?]
  | .element head children, h => by
    obtain ⟨-, hchildren, hplain⟩ := h
    cases hraw : head.isRaw with
    | true =>
      have hnone : (Node.preorderAll children).filterMap Node.rawContent? = [] := by
        rcases hplain hraw with rfl | ⟨span, rfl⟩
        · simp [Node.preorderAll]
        · simp [Node.preorderAll, preorder, rawContent?]
      have hcontent : (Node.element head children).preorder.filterMap Node.rawContent? =
          head.content?.toList := by
        rw [preorder, List.filterMap_cons, hnone]
        cases hspan : head.content? with
        | none => simp [rawContent?, hraw, hspan]
        | some span => simp [rawContent?, hraw, hspan]
      rw [hcontent, stretches, kept, hraw, if_pos rfl, if_pos rfl, List.cons_append,
        List.cons_append, List.cons_append, List.nil_append]
      exact List.perm_append_comm.cons _
    | false =>
      have hbelow := InOrder.stretchesAll_perm hchildren
      have hcontent : (Node.element head children).preorder.filterMap Node.rawContent? =
          (Node.preorderAll children).filterMap Node.rawContent? := by
        simp [preorder, rawContent?, hraw]
      rw [hcontent, stretches, kept, hraw, if_neg (by simp), if_neg (by simp), List.cons_append,
        List.cons_append, List.cons_append]
      refine List.Perm.cons _ ?_
      -- The closing tag moves in front of the contents below.
      refine (hbelow.append_right _).trans ?_
      rw [List.append_assoc, List.append_assoc]
      exact List.Perm.append_left _ List.perm_append_comm

/-- The stretches are the kept ones and the raw contents, in another order. -/
theorem Node.InOrder.stretchesAll_perm : ∀ {nodes : List Node} {first last : Nat},
    InOrder text first last nodes →
      (Node.stretchesAll text nodes).Perm (Node.keptAll text nodes ++ Node.rawContents nodes)
  | [], _, _, _ => by simp [stretchesAll, keptAll, rawContents, preorderAll]
  | node :: others, first, last, h => by
    have hnode := Placed.stretches_perm h.2.1
    have hothers := InOrder.stretchesAll_perm h.2.2
    have hcontents : Node.rawContents (node :: others) =
        node.preorder.filterMap Node.rawContent? ++ Node.rawContents others := by
      rw [rawContents, preorderAll, List.filterMap_append]
      rfl
    rw [stretchesAll, keptAll, hcontents]
    refine (hnode.append hothers).trans ?_
    simp only [List.append_assoc]
    refine List.Perm.append_left _ ?_
    rw [← List.append_assoc, ← List.append_assoc]
    exact List.Perm.append_right _ List.perm_append_comm

end

end ComponentServer.Markup
