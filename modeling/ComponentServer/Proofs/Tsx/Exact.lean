import ComponentServer.Proofs.Tsx.Coverage
import ComponentServer.Proofs.Virtual.Anchored

/-!
# The built-in compiler maps exactly

From a document to the mapping of its primary file and back: the pieces are written as anchors, the
anchors as text, the text is decoded and the stretches are recovered from it. Nothing is lost on the
way as long as lines and columns fit words of 32 bits, so the mapping ties each copied offset of the
document to its copy and to nothing else.
-/

namespace ComponentServer.Tsx

open Text Markup Recovery SourceMap

/-- The offset belongs to a part of the document that the code copies: the body of the frontmatter,
the content of an inline script or, outside scripts and styles, a text or a tag. -/
def Parts.Keeps (parts : Parts) (text : Text) (inlineAttributes : List Text) (offset : Nat) : Prop :=
  (∃ body, parts.frontmatter.body? = some body ∧ body.Holds offset) ∨
  (∃ block ∈ parts.blocks, block.isInlineScript inlineAttributes = true ∧
    block.span.Holds offset) ∨
  ∃ node ∈ Node.outsideAll parts.tree.children, ∃ span ∈ node.keptHere text, span.Holds offset

theorem Parts.exists_copiedSpans_iff {parts : Parts} {text : Text} {inlineAttributes : List Text}
    {offset : Nat} :
    (∃ span ∈ parts.copiedSpans text inlineAttributes, span.Holds offset) ↔
      parts.Keeps text inlineAttributes offset := by
  simp only [copiedSpans, List.mem_append, Option.mem_toList, List.mem_map, List.mem_filter,
    Node.mem_keptAll_iff, Keeps]
  constructor
  · rintro ⟨span, (hbody | ⟨block, ⟨hblock, hinline⟩, rfl⟩) | ⟨node, hnode, hspan⟩, hholds⟩
    · exact Or.inl ⟨span, hbody, hholds⟩
    · exact Or.inr (Or.inl ⟨block, hblock, hinline, hholds⟩)
    · exact Or.inr (Or.inr ⟨node, hnode, span, hspan, hholds⟩)
  · rintro (⟨body, hbody, hholds⟩ | ⟨block, hblock, hinline, hholds⟩ | ⟨node, hnode, span, hspan, hholds⟩)
    · exact ⟨body, Or.inl (Or.inl hbody), hholds⟩
    · exact ⟨block.span, Or.inl (Or.inr ⟨block, ⟨hblock, hinline⟩, rfl⟩), hholds⟩
    · exact ⟨span, Or.inr ⟨node, hnode, hspan⟩, hholds⟩

/-- A primary file whose mapping ties the copied offsets of the document to their copies in the code
and to nothing else. -/
structure ExactFor (text : Text) (inlineAttributes : List Text) (code : Text) (file : VirtualFile) :
    Prop where
  source_disjoint : file.mapping.stretches.Pairwise fun left right =>
    left.source.Disjoint right.source
  generated_disjoint : file.mapping.stretches.Pairwise fun left right =>
    left.generated.Disjoint right.generated
  /-- The segments hold the copied offsets of the document. -/
  covers : ∀ offset, (∃ segment ∈ file.mapping.stretches, segment.source.Holds offset) ↔
    (Parts.of text).Keeps text inlineAttributes offset
  /-- A copied offset goes to the same byte of the code and comes back. -/
  returns : ∀ offset, (Parts.of text).Keeps text inlineAttributes offset →
    ∃ place byte, file.mapping.toGenerated? none offset = some place ∧
      (utf8 file.text)[place]? = some byte ∧ (utf8 text)[offset]? = some byte ∧
      file.mapping.toSource? none place = some offset
  /-- An offset of the code in a segment comes back through it. -/
  back_inside : ∀ place, ∀ segment ∈ file.mapping.stretches, segment.generated.Holds place →
    file.mapping.toSource? none place =
      some (segment.source.start + (place - segment.generated.start))
  /-- One that is in no segment, but behind one, comes back behind it. -/
  back_behind : ∀ place,
    (∀ segment ∈ file.mapping.stretches, ¬ segment.generated.Holds place) →
    ∀ segment ∈ file.mapping.stretches, segment.generated.stop = place →
    file.mapping.toSource? none place = some segment.source.stop
  /-- Any other has no place in the document, but for the first statement, which has its start. -/
  back_outside : ∀ place,
    (∀ segment ∈ file.mapping.stretches, ¬ segment.generated.Holds place) →
    (∀ segment ∈ file.mapping.stretches, segment.generated.stop ≠ place) →
    file.mapping.toSource? none place =
      if place = Virtual.firstStatement code then some 0 else none

variable {text : Text} {segments : List Segment}

/-- What makes the mapping of a primary file exact. -/
theorem exactFor_primaryFile {code : Text} {inlineAttributes : List Text}
    (options : Virtual.Options) (hsound : ∀ segment ∈ segments, Sound text code segment)
    (hsource : ApartOn .source segments) (hgenerated : ApartOn .generated segments)
    (hheld : ∀ offset, Held .source segments offset ↔
      (Parts.of text).Keeps text inlineAttributes offset) :
    ExactFor text inlineAttributes code (Virtual.primaryFile options code segments) := by
  have heven : ∀ segment ∈ segments, segment.Even := fun segment hmem =>
    ⟨(hsound segment hmem).nonempty, (hsound segment hmem).ties.faithful.length_eq⟩
  have hperm : (Virtual.primaryFile options code segments).mapping.stretches.Perm segments :=
    OffsetMapping.stretches_perm heven
  have hmem : ∀ {segment}, segment ∈ (Virtual.primaryFile options code segments).mapping.stretches ↔
      segment ∈ segments := fun {segment} => hperm.mem_iff
  have hpairwise : ∀ side, ApartOn side segments →
      (Virtual.primaryFile options code segments).mapping.stretches.Pairwise fun left right =>
        (side.span left).Disjoint (side.span right) := by
    intro side hapart
    refine (hperm.pairwise_iff (fun h => h.symm)).mpr ?_
    refine hapart.imp_of_mem ?_
    intro left right hleft hright hdisjoint
    exact hdisjoint.disjoint ((heven left hleft).lt side) ((heven right hright).lt side)
  exact {
    source_disjoint := hpairwise .source hsource
    generated_disjoint := hpairwise .generated hgenerated
    covers := fun offset => by
      rw [← hheld offset]
      simp only [hmem]
      rfl
    returns := fun offset hkeeps => by
      obtain ⟨segment, hsegment, hholds⟩ := (hheld offset).mpr hkeeps
      -- The file may go on behind the code, so the segment is tied to the text of the file.
      have hties := Virtual.ties_primaryFile options hsound segment
        ((Virtual.segments_primaryFile_perm options code segments).mem_iff.mpr
          (List.mem_append_left _ hsegment))
      have hinside := hties.faithful.source_inside
      have hlt : offset < (utf8 text).length := by
        rw [length_utf8]
        exact Nat.lt_of_lt_of_le hholds.2 hinside
      have hlength := OffsetMapping.length_eq_append_anchor (Virtual.firstStatement code)
        fun other hother => (heven other hother).length_eq
      obtain ⟨hthere, hback⟩ := OffsetMapping.across?_of_holds hlength
        (OffsetMapping.disjointOn_append_anchor hsource.disjointOn)
        (OffsetMapping.disjointOn_append_anchor hgenerated.disjointOn)
        (List.mem_append_left _ hsegment) hholds
      have hbyte := hties.utf8_getElem?_eq hholds
      rw [List.getElem?_eq_getElem hlt] at hbyte
      exact ⟨_, _, hthere, hbyte, List.getElem?_eq_getElem hlt, hback⟩
    back_inside := fun place segment hsegment hholds =>
      OffsetMapping.toSource?_of_holds heven hgenerated.disjointOn (hmem.mp hsegment) hholds
    back_behind := fun place hnone segment hsegment hends =>
      OffsetMapping.toSource?_of_ends heven hgenerated.disjointOn
        (fun other hother => hnone other (hmem.mpr hother)) (hmem.mp hsegment) hends
    back_outside := fun place hnone hends =>
      OffsetMapping.toSource?_of_untouched heven hgenerated.disjointOn
        (fun other hother => hnone other (hmem.mpr hother))
        (fun other hother => hends other (hmem.mpr hother)) }

/-- **The built-in compiler never fails and its mapping is exact**, for every document of fewer than
2^32 lines and columns whose code has as few. -/
theorem exactFor_compilePrimary (text : Text) (inlineAttributes : List Text)
    (options : Virtual.Options) (htext : Addressable text)
    (hcode : Addressable (compile inlineAttributes text options.fileName).code) :
    ∃ file, Virtual.compilePrimary (compiler inlineAttributes) text options =
        .ok (file, (compile inlineAttributes text options.fileName).diagnostics) ∧
      ExactFor text inlineAttributes (compile inlineAttributes text options.fileName).code file := by
  have hreproduces := Parts.reproduces_pieces text options.fileName inlineAttributes
  obtain ⟨mappings, hdecode, hsegments⟩ :=
    Piece.segments_of_anchors htext hcode hreproduces.copied
  have hparse : SourceMap.parse (compile inlineAttributes text options.fileName).map =
      .ok mappings := by
    rw [compile, parse_render rfl, hdecode]
    rfl
  -- The code of the output is the code of the pieces, so the segments are joined from their runs.
  have hjoined : Recovery.segments text (compile inlineAttributes text options.fileName).code
      mappings = (Piece.runsFrom 0 ((Parts.of text).pieces text options.fileName
        inlineAttributes)).foldl join [] := hsegments
  have hnothing : ∀ segment ∈ ([] : List Segment), segment.Even := by simp
  have hapart : ∀ side, ApartOn side (Piece.runsFrom 0
      ((Parts.of text).pieces text options.fileName inlineAttributes)) →
      ApartOn side (Recovery.segments text (compile inlineAttributes text options.fileName).code
        mappings) := by
    intro side hruns
    rw [hjoined]
    exact apartOn_foldl_join hnothing Piece.even_runsFrom List.Pairwise.nil hruns (by simp [Held])
  refine ⟨_, ?_, exactFor_primaryFile options (sound_segments text _ mappings)
    (hapart .source ?_) (hapart .generated Piece.apartOn_generated_runsFrom) ?_⟩
  · simp only [Virtual.compilePrimary, compiler, Except.mapError, bind, Except.bind, hparse]
    rfl
  · apply Piece.apartOn_source_runsFrom
    rw [hreproduces.spans_eq]
    exact Parts.pairwise_disjoint_copiedSpans text inlineAttributes
  · intro offset
    rw [hjoined, held_foldl_join hnothing Piece.even_runsFrom, Piece.held_runsFrom,
      hreproduces.spans_eq, Parts.exists_copiedSpans_iff]
    simp [Held]

/-- A document with a frontmatter, characters of two and four bytes, a void element, blanks that are
dropped and an inline script. -/
def mixedDocument : Text :=
  "---\nx\n---\n<p>é😀<br>\n </p><script is:inline>y</script>".toList

theorem scan_mixedDocument :
    Token.scan (dropBytes (floorBoundary mixedDocument
      ((Frontmatter.scan mixedDocument).markupStart (size mixedDocument))) mixedDocument) =
      [.text ['\n'],
        .startTag ⟨['<', 'p', '>'], ['p'], [], .bracket⟩,
        .text ['é', '😀'],
        .startTag ⟨['<', 'b', 'r', '>'], ['b', 'r'], [], .bracket⟩,
        .text ['\n', ' '],
        .endTag ['<', '/', 'p', '>'] ['p'],
        .raw ⟨"<script is:inline>".toList, scriptTag, [⟨"is:inline".toList, none⟩], .bracket⟩ ['y']
          (some "</script>".toList)] := by
  cbv

set_option maxRecDepth 10000 in
theorem addressable_code_mixedDocument :
    Addressable (compile [Block.inlineAttribute] mixedDocument ['a']).code := by
  simp only [compile, Parts.of, Tree.parse_eq_ofMarkup, Tree.ofMarkup, scan_mixedDocument]
  decide +kernel

theorem exactFor_compilePrimary_mixedDocument :
    Addressable mixedDocument ∧
    Addressable (compile [Block.inlineAttribute] mixedDocument ['a']).code ∧
    ∃ file, Virtual.compilePrimary (compiler [Block.inlineAttribute]) mixedDocument
        ⟨['a'], 1, [Block.inlineAttribute], []⟩ =
          .ok (file, (compile [Block.inlineAttribute] mixedDocument ['a']).diagnostics) ∧
      ExactFor mixedDocument [Block.inlineAttribute]
        (compile [Block.inlineAttribute] mixedDocument ['a']).code file := by
  have htext : Addressable mixedDocument := by decide
  exact ⟨htext, addressable_code_mixedDocument,
    exactFor_compilePrimary mixedDocument [Block.inlineAttribute]
      ⟨['a'], 1, [Block.inlineAttribute], []⟩ htext addressable_code_mixedDocument⟩

end ComponentServer.Tsx
