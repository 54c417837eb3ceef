import ComponentServer.Proofs.Block
import ComponentServer.Proofs.Frontmatter
import ComponentServer.Proofs.Markup.Kept
import ComponentServer.Proofs.Tsx.Copies
import ComponentServer.Proofs.Virtual.Files
import ComponentServer.Tsx.Compile

/-!
# Which stretches of a document are copied

The pieces of the code reproduce the body of the frontmatter, the contents of the inline scripts and
the kept stretches of the markup, in this order, with made-up text between them. The scripts are
taken out of the middle of the markup, so their order in the code is not that of the document; still
no two of the stretches overlap.
-/

namespace ComponentServer.Tsx

open Text Markup Recovery

variable {text : Text}

namespace Piece

/-- The stretch of the document that a copied piece comes from. -/
def span? : Piece → Option Span
  | .copied start copy => some ⟨start, start + size copy⟩
  | .made _ => none

/-- The pieces are true copies of the stretches, in their order, perhaps with made-up text between
them. -/
structure Reproduces (text : Text) (pieces : List Piece) (spans : List Span) : Prop where
  copied : ∀ piece ∈ pieces, piece.CopiedFrom text
  spans_eq : pieces.filterMap span? = spans

namespace Reproduces

theorem nil : Reproduces text [] [] := ⟨by simp, rfl⟩

theorem append {front back : List Piece} {spans spans' : List Span}
    (hfront : Reproduces text front spans) (hback : Reproduces text back spans') :
    Reproduces text (front ++ back) (spans ++ spans') := by
  refine ⟨?_, by rw [List.filterMap_append, hfront.spans_eq, hback.spans_eq]⟩
  intro piece hmem
  rcases List.mem_append.mp hmem with hmem | hmem
  · exact hfront.copied piece hmem
  · exact hback.copied piece hmem

theorem made (words : Text) : Reproduces text [.made words] [] := ⟨by simp [CopiedFrom], rfl⟩

theorem single {start : Nat} {copy : Text} (h : StandsAt text start copy) :
    Reproduces text [.copied start copy] [⟨start, start + size copy⟩] :=
  ⟨by simpa [CopiedFrom] using h, rfl⟩

theorem slice (span : Span) (hstart : IsBoundary text span.start)
    (hstop : IsBoundary text span.stop) (hle : span.start ≤ span.stop) :
    Reproduces text [.copied span.start (text.slice span)] [span] := by
  obtain ⟨hstands, hsize⟩ := standsAt_slice hstart hstop hle
  have hsingle := single hstands
  rwa [hsize] at hsingle

end Reproduces

/-! ### Nodes -/

/-- The opening tag of a void element, with its bracket taken away if it has one. -/
theorem reproduces_dropBracket (span : Span) (hstart : IsBoundary text span.start)
    (hstop : IsBoundary text span.stop) (hle : span.start ≤ span.stop) :
    Reproduces text [.copied span.start (dropBracket (text.slice span))]
      [if (text.slice span).getLast? == some '>' then ⟨span.start, span.stop - 1⟩ else span] := by
  obtain ⟨hstands, hsize⟩ := standsAt_slice hstart hstop hle
  by_cases hlast : (text.slice span).getLast? = some '>'
  · obtain ⟨front, hfront⟩ := List.getLast?_eq_some_iff.mp hlast
    rw [dropBracket, if_pos hlast, hlast, hfront, List.dropLast_concat]
    rw [hfront] at hstands hsize
    have hone : size ['>'] = 1 := rfl
    rw [size_append, hone] at hsize
    have hsingle := Reproduces.single hstands.left
    have hstop : span.start + size front = span.stop - 1 := by omega
    rw [hstop] at hsingle
    simpa using hsingle
  · rw [dropBracket, if_neg hlast, if_neg (by simpa using hlast)]
    exact Reproduces.slice span hstart hstop hle

/-- The closing tag is copied where there is one, and else made up. -/
theorem reproduces_closing {head : Element} (h : head.Placed text) :
    Reproduces text
      [match head.endTagStart with
        | some start =>
          if head.closed then copy text ⟨start, head.span.stop⟩
          else .made ("</".toList ++ head.tag ++ ['>'])
        | none => .made ("</".toList ++ head.tag ++ ['>'])]
      head.keptClosing?.toList := by
  cases houter : head.endTagStart with
  | none => simpa [Element.keptClosing?, houter] using Reproduces.made _
  | some outer =>
    obtain ⟨hlt, hboundary, hclosed, -⟩ := h.closing outer houter
    have hslice : Reproduces text
        [.copied outer (text.slice ⟨outer, head.span.stop⟩)] [⟨outer, head.span.stop⟩] :=
      .slice ⟨outer, head.span.stop⟩ hboundary h.stop (Nat.le_of_lt hlt)
    simpa [Element.keptClosing?, houter, hclosed, copy] using hslice

mutual

theorem reproduces_ofNode : ∀ {node : Node}, node.Placed text →
    Reproduces text (ofNode text node) (node.kept text)
  | .text span, h => Reproduces.slice span h.2.1 h.2.2 (Nat.le_of_lt h.1)
  | .comment span closed, h => Reproduces.made _
  | .element head children, h => by
    obtain ⟨hhead, hchildren, -⟩ := id h
    rw [ofNode]
    cases hinner : head.startTagEnd with
    | none =>
      rw [h.kept_bare (by simp [hinner]), Element.keptOpening, hinner]
      exact (Reproduces.slice head.span hhead.start hhead.stop (Nat.le_of_lt hhead.lt)).append (.made _)
    | some inner =>
      obtain ⟨hlt, -, hboundary⟩ := hhead.opening inner hinner
      have hopening : Reproduces text
          [.copied head.span.start (text.slice ⟨head.span.start, inner⟩)]
          [⟨head.span.start, inner⟩] :=
        .slice ⟨head.span.start, inner⟩ hhead.start hboundary (Nat.le_of_lt hlt)
      simp only
      split
      next hself =>
        rw [h.kept_bare (hhead.bare (Or.inl hself)), Element.keptOpening, hinner]
        simpa [hself] using hopening
      next hself =>
        split
        next hvoid =>
          have hbracket := reproduces_dropBracket ⟨head.span.start, inner⟩ hhead.start hboundary
            (Nat.le_of_lt hlt)
          rw [h.kept_bare (hhead.bare (Or.inr hvoid)), Element.keptOpening, hinner]
          simpa [hvoid, hself] using hbracket.append (.made _)
        next hvoid =>
          have hmiddle : Reproduces text (if head.isRaw then [] else ofNodes text children)
              (if head.isRaw then [] else Node.keptAll text children) := by
            split
            · exact .nil
            · exact reproduces_ofNodes hchildren
          have hclosing := reproduces_closing hhead
          have hkept : head.keptOpening text = ⟨head.span.start, inner⟩ := by
            simp [Element.keptOpening, hinner, hvoid]
          rw [Node.kept, hkept]
          exact (hopening.append hmiddle).append hclosing

theorem reproduces_ofNodes : ∀ {nodes : List Node} {first last : Nat},
    Node.InOrder text first last nodes →
      Reproduces text (ofNodes text nodes) (Node.keptAll text nodes)
  | [], _, _, _ => .nil
  | _ :: _, _, _, h => (reproduces_ofNode h.2.1).append (reproduces_ofNodes h.2.2)

end

/-! ### Stretches of the code -/

@[simp]
theorem filterMap_span?_copied (start : Nat) (copy : Text) (others : List Piece) :
    (.copied start copy :: others).filterMap span? =
      ⟨start, start + size copy⟩ :: others.filterMap span? := rfl

@[simp]
theorem filterMap_span?_made (words : Text) (others : List Piece) :
    (.made words :: others).filterMap span? = others.filterMap span? := rfl

theorem mem_runsFrom_copied {run : Segment} {offset start : Nat} {copy : Text}
    {others : List Piece} :
    run ∈ runsFrom offset (.copied start copy :: others) ↔
      (copy ≠ [] ∧ run = .ofLength start offset (size copy) .unformattable) ∨
        run ∈ runsFrom (offset + size copy) others := by
  by_cases hne : copy = [] <;> simp [runsFrom, hne]

theorem pairwise_runsFrom_copied {related : Segment → Segment → Prop} {offset start : Nat}
    {copy : Text} {others : List Piece}
    (hlater : ∀ later ∈ runsFrom (offset + size copy) others,
      related (.ofLength start offset (size copy) .unformattable) later)
    (hothers : (runsFrom (offset + size copy) others).Pairwise related) :
    (runsFrom offset (.copied start copy :: others)).Pairwise related := by
  by_cases hne : copy = []
  · simpa [runsFrom, hne] using hothers
  · simpa [runsFrom, hne] using ⟨hlater, hothers⟩

theorem even_runsFrom {offset : Nat} {pieces : List Piece} :
    ∀ run ∈ runsFrom offset pieces, run.Even := by
  induction pieces generalizing offset with
  | nil => simp [runsFrom]
  | cons piece others ih =>
    cases piece with
    | made words => exact ih
    | copied start copy =>
      intro run hmem
      rcases mem_runsFrom_copied.mp hmem with ⟨hne, rfl⟩ | hmem
      · exact Segment.even_ofLength _ _ (size_pos_iff.mpr hne) _
      · exact ih run hmem

theorem bounds_of_mem_runsFrom {offset : Nat} {pieces : List Piece} :
    ∀ run ∈ runsFrom offset pieces, offset ≤ run.generated.start ∧
      run.source ∈ pieces.filterMap span? := by
  induction pieces generalizing offset with
  | nil => simp [runsFrom]
  | cons piece others ih =>
    intro run hmem
    cases piece with
    | made words =>
      obtain ⟨hle, hsource⟩ := ih run hmem
      exact ⟨by omega, hsource⟩
    | copied start copy =>
      rcases mem_runsFrom_copied.mp hmem with ⟨-, rfl⟩ | hmem
      · exact ⟨Nat.le_refl _, List.mem_cons_self⟩
      · obtain ⟨hle, hsource⟩ := ih run hmem
        exact ⟨by omega, List.mem_cons_of_mem _ hsource⟩

/-- The stretches of the code hold just the offsets of the document that are copied. -/
theorem held_runsFrom {offset : Nat} {pieces : List Piece} (place : Nat) :
    Held .source (runsFrom offset pieces) place ↔
      ∃ span ∈ pieces.filterMap span?, span.Holds place := by
  constructor
  · rintro ⟨run, hmem, hholds⟩
    exact ⟨run.source, (bounds_of_mem_runsFrom run hmem).2, hholds⟩
  · induction pieces generalizing offset with
    | nil => simp
    | cons piece others ih =>
      rintro ⟨span, hmem, hholds⟩
      cases piece with
      | made words => exact ih ⟨span, hmem, hholds⟩
      | copied start copy =>
        rw [filterMap_span?_copied, List.mem_cons] at hmem
        rcases hmem with rfl | hmem
        · have hne : copy ≠ [] := by
            rintro rfl
            simp only [size_nil, Span.Holds] at hholds
            omega
          exact ⟨_, mem_runsFrom_copied.mpr (Or.inl ⟨hne, rfl⟩), hholds⟩
        · obtain ⟨run, hrun, hruns⟩ := @ih (offset + size copy) ⟨span, hmem, hholds⟩
          exact ⟨run, mem_runsFrom_copied.mpr (Or.inr hrun), hruns⟩

theorem pairwise_generated_runsFrom {offset : Nat} {pieces : List Piece} :
    (runsFrom offset pieces).Pairwise fun left right =>
      left.generated.stop ≤ right.generated.start := by
  induction pieces generalizing offset with
  | nil => exact List.Pairwise.nil
  | cons piece others ih =>
    cases piece with
    | made words => exact ih
    | copied start copy =>
      refine pairwise_runsFrom_copied ?_ ih
      intro later hlater
      exact (bounds_of_mem_runsFrom later hlater).1

theorem apartOn_generated_runsFrom {offset : Nat} {pieces : List Piece} :
    ApartOn .generated (runsFrom offset pieces) :=
  pairwise_generated_runsFrom.imp fun hle => Span.Disjoint.apart (Or.inl hle)

/-- What holds between the copied stretches of the document holds between those of the code. -/
theorem pairwise_source_runsFrom {related : Span → Span → Prop} {offset : Nat}
    {pieces : List Piece} (h : (pieces.filterMap span?).Pairwise related) :
    (runsFrom offset pieces).Pairwise fun left right => related left.source right.source := by
  induction pieces generalizing offset with
  | nil => exact List.Pairwise.nil
  | cons piece others ih =>
    cases piece with
    | made words => exact ih h
    | copied start copy =>
      rw [filterMap_span?_copied, List.pairwise_cons] at h
      refine pairwise_runsFrom_copied ?_ (ih h.2)
      intro later hlater
      exact h.1 later.source (bounds_of_mem_runsFrom later hlater).2

theorem apartOn_source_runsFrom {offset : Nat} {pieces : List Piece}
    (h : (pieces.filterMap span?).Pairwise Span.Disjoint) :
    ApartOn .source (runsFrom offset pieces) :=
  (pairwise_source_runsFrom h).imp Span.Disjoint.apart

end Piece

/-! ### The parts of a document -/

namespace Parts

/-- The tree starts at the end of the frontmatter, which is between characters. -/
theorem inOrder_tree (text : Text) :
    Node.InOrder text ((Frontmatter.scan text).markupStart (size text)) (size text)
      (Parts.of text).tree.children := by
  have hparse := Tree.inOrder_parse text ((Frontmatter.scan text).markupStart (size text))
  rwa [floorBoundary_of_isBoundary (Frontmatter.isBoundary_markupStart text)] at hparse

theorem reproduces_frontmatterPieces (text : Text) :
    Piece.Reproduces text ((Parts.of text).frontmatterPieces text)
      (Parts.of text).frontmatter.body?.toList := by
  unfold frontmatterPieces
  split
  next body hbody =>
    obtain ⟨hstart, hstop, hle, -⟩ := Frontmatter.body_placed hbody
    rw [hbody]
    exact (Piece.Reproduces.slice body hstart hstop hle).append (.made _)
  next hbody =>
    rw [hbody]
    exact .nil

theorem reproduces_blocks {blocks : List Block}
    (h : ∀ block ∈ blocks, block.content = text.slice block.span ∧ IsBoundary text block.span.start ∧
      IsBoundary text block.span.stop ∧ block.span.start ≤ block.span.stop) :
    Piece.Reproduces text
      (blocks.flatMap fun block => [.copied block.span.start block.content, .made ['\n']])
      (blocks.map Block.span) := by
  induction blocks with
  | nil => exact .nil
  | cons block others ih =>
    obtain ⟨hcontent, hstart, hstop, hle⟩ := h block (by simp)
    have hothers := ih fun other hother => h other (List.mem_cons_of_mem _ hother)
    have hblock := Piece.Reproduces.slice block.span hstart hstop hle
    rw [← hcontent] at hblock
    exact (hblock.append (.made ['\n'])).append hothers

/-- The stretches of a document that its code copies, in the order of the code. -/
def copiedSpans (parts : Parts) (text : Text) (inlineAttributes : List Text) : List Span :=
  parts.frontmatter.body?.toList ++
    (parts.blocks.filter (·.isInlineScript inlineAttributes)).map Block.span ++
    Node.keptAll text parts.tree.children

theorem reproduces_pieces (text fileName : Text) (inlineAttributes : List Text) :
    Piece.Reproduces text ((Parts.of text).pieces text fileName inlineAttributes)
      ((Parts.of text).copiedSpans text inlineAttributes) := by
  have hscripts : Piece.Reproduces text ((Parts.of text).scriptPieces inlineAttributes)
      (((Parts.of text).blocks.filter (·.isInlineScript inlineAttributes)).map Block.span) := by
    apply reproduces_blocks
    intro block hmem
    exact Virtual.content_of_mem_extract (List.mem_filter.mp hmem).1
  have hmarkup : Piece.Reproduces text (Piece.ofNodes text (Parts.of text).tree.children)
      (Node.keptAll text (Parts.of text).tree.children) :=
    Piece.reproduces_ofNodes (Tree.inOrder_parse text _)
  have hall := ((((reproduces_frontmatterPieces text).append hscripts).append
    (.made (opening fileName))).append hmarkup).append (.made ending)
  simpa [pieces, copiedSpans] using hall

theorem map_span_blocks (text : Text) :
    (Parts.of text).blocks.map Block.span = Node.rawContents (Parts.of text).tree.children := by
  have hblocks : (Parts.of text).blocks = Block.extractSlices (Parts.of text).tree text :=
    Block.extract_parse text _
  rw [hblocks, Block.extractSlices, Tree.elements, Tree.nodes_eq_preorderAll,
    List.filterMap_filterMap, List.map_filterMap, Node.rawContents]
  congr 1
  funext node
  cases node with
  | text span => rfl
  | comment span closed => rfl
  | element head children => exact Block.map_span_ofSlices? text head

theorem pairwise_disjoint_copiedSpans (text : Text) (inlineAttributes : List Text) :
    ((Parts.of text).copiedSpans text inlineAttributes).Pairwise Span.Disjoint := by
  have hinOrder := Parts.inOrder_tree text
  have hline := hinOrder.inLine_stretchesAll
  have hperm := hinOrder.stretchesAll_perm
  -- The inline scripts are some of the raw contents, taken out in front of the rest.
  have hsublist : (((Parts.of text).blocks.filter (·.isInlineScript inlineAttributes)).map
      Block.span).Sublist (Node.rawContents (Parts.of text).tree.children) := by
    rw [← map_span_blocks text]
    exact List.filter_sublist.map Block.span
  have hinMarkup : ∀ span ∈ (((Parts.of text).blocks.filter
      (·.isInlineScript inlineAttributes)).map Block.span) ++
        Node.keptAll text (Parts.of text).tree.children,
      (Frontmatter.scan text).markupStart (size text) ≤ span.start := by
    intro span hmem
    refine (hline.bounds span (hperm.mem_iff.mpr ?_)).1
    rcases List.mem_append.mp hmem with hmem | hmem
    · exact List.mem_append_right _ (hsublist.subset hmem)
    · exact List.mem_append_left _ hmem
  have hmarkup : ((((Parts.of text).blocks.filter (·.isInlineScript inlineAttributes)).map
      Block.span) ++ Node.keptAll text (Parts.of text).tree.children).Pairwise Span.Disjoint := by
    have hsymm : ∀ {left right : Span}, left.Disjoint right → right.Disjoint left :=
      fun h => h.symm
    have hall := (hperm.pairwise_iff hsymm).mp hline.pairwise_disjoint
    have hsome := hall.sublist (hsublist.append_left (Node.keptAll text _))
    exact (List.perm_append_comm.pairwise_iff hsymm).mp hsome
  rw [copiedSpans, List.append_assoc, List.pairwise_append]
  refine ⟨?_, hmarkup, ?_⟩
  · cases (Parts.of text).frontmatter.body? with
    | none => exact List.Pairwise.nil
    | some body => exact List.pairwise_singleton _ _
  · intro body hbody span hmem
    obtain ⟨-, -, -, hle⟩ := Frontmatter.body_placed (Option.mem_toList.mp hbody)
    exact Or.inl (Nat.le_trans hle (hinMarkup span hmem))

end Parts

end ComponentServer.Tsx
