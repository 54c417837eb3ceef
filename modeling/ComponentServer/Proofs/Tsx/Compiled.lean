import ComponentServer.Proofs.Block
import ComponentServer.Proofs.Tsx.Exact

/-!
# What the primary file of the built-in compiler answers

The segments of a compiled document hold the offsets that the code copies and no others. Through
them such an offset finds its own byte in the primary file, for everything but formatting; an offset
inside a stretch that is not copied finds nothing.
-/

namespace ComponentServer.Tsx

open Text Markup Recovery SourceMap

/-- Lines and columns of the document and of its code fit words of 32 bits. -/
structure Fits (inlineAttributes : List Text) (text fileName : Text) : Prop where
  document : Addressable text
  code : Addressable (compile inlineAttributes text fileName).code

variable {text : Text} {inlineAttributes : List Text} {options : Virtual.Options}

/-- The source map is read back, and its segments are the joined stretches of the pieces. -/
theorem compiled_eq (h : Fits inlineAttributes text options.fileName) :
    Virtual.compiled (compiler inlineAttributes) text options =
      ((compile inlineAttributes text options.fileName).code,
        (Piece.runsFrom 0 ((Parts.of text).pieces text options.fileName
          inlineAttributes)).foldl join []) := by
  have hreproduces := Parts.reproduces_pieces text options.fileName inlineAttributes
  obtain ⟨mappings, hdecode, hsegments⟩ :=
    Piece.segments_of_anchors h.document h.code hreproduces.copied
  have hparse : SourceMap.parse (compile inlineAttributes text options.fileName).map =
      .ok mappings := by
    rw [compile, parse_render rfl, hdecode]
    rfl
  simp only [Virtual.compiled, compiler, hparse]
  rw [← hsegments]
  rfl

/-- The code is compiled, and its segments hold what it copies. -/
theorem exists_compiled (h : Fits inlineAttributes text options.fileName) :
    ∃ segments, Virtual.compiled (compiler inlineAttributes) text options =
        ((compile inlineAttributes text options.fileName).code, segments) ∧
      ApartOn .source segments ∧
      ∀ offset, Held .source segments offset ↔
        (Parts.of text).Keeps text inlineAttributes offset := by
  have hreproduces := Parts.reproduces_pieces text options.fileName inlineAttributes
  have hnothing : ∀ segment ∈ ([] : List Segment), segment.Even := by simp
  refine ⟨_, compiled_eq h, ?_, ?_⟩
  · refine apartOn_foldl_join hnothing Piece.even_runsFrom List.Pairwise.nil ?_ (by simp [Held])
    apply Piece.apartOn_source_runsFrom
    rw [hreproduces.spans_eq]
    exact Parts.pairwise_disjoint_copiedSpans text inlineAttributes
  · intro offset
    rw [held_foldl_join hnothing Piece.even_runsFrom, Piece.held_runsFrom,
      hreproduces.spans_eq, Parts.exists_copiedSpans_iff]
    simp [Held]

/-- Nothing is copied of a block that is not hoisted. -/
theorem Parts.not_keeps_of_mem_blocks {block : Block} (hblock : block ∈ (Parts.of text).blocks)
    (hinline : block.isInlineScript inlineAttributes = false) {offset : Nat}
    (hholds : block.span.Holds offset) : ¬ (Parts.of text).Keeps text inlineAttributes offset := by
  have hinOrder := Parts.inOrder_tree text
  have hline := hinOrder.inLine_stretchesAll
  have hperm := hinOrder.stretchesAll_perm
  have hcontent : block.span ∈ Node.rawContents (Parts.of text).tree.children := by
    rw [← map_span_blocks text]
    exact List.mem_map_of_mem hblock
  rintro (⟨body, hbody, hheld⟩ | ⟨other, hother, hotherInline, hheld⟩ |
    ⟨node, hnode, span, hspan, hheld⟩)
  · -- The body of the frontmatter ends in front of the markup.
    have hle := (Frontmatter.body_placed hbody).2.2.2
    have hbound := (hline.bounds block.span
      (hperm.mem_iff.mpr (List.mem_append_right _ hcontent))).1
    have hstop := hheld.2
    have hstart := hholds.1
    omega
  · have hin : other.contains offset = true := by
      simp [Block.contains, hheld.1, Nat.le_of_lt hheld.2]
    have hin' : block.contains offset = true := by
      simp [Block.contains, hholds.1, Nat.le_of_lt hholds.2]
    have hsame := (Block.separate_extract text _).eq_of_contains hother hblock hin hin'
    rw [hsame, hinline] at hotherInline
    cases hotherInline
  · have hall := (hperm.pairwise_iff fun h => h.symm).mp hline.pairwise_disjoint
    have hkept : span ∈ Node.keptAll text (Parts.of text).tree.children :=
      Node.mem_keptAll_iff.mpr ⟨node, hnode, hspan⟩
    exact ((List.pairwise_append.mp hall).2.2 span hkept block.span hcontent).apart offset hheld
      hholds

/-- The primary file that a document is compiled to. -/
def primary (inlineAttributes : List Text) (text : Text) (options : Virtual.Options) :
    VirtualFile :=
  Virtual.primaryFile options (Virtual.compiled (compiler inlineAttributes) text options).1
    (Virtual.compiled (compiler inlineAttributes) text options).2

theorem admits_unformattable {capability : Capability} (h : capability ≠ .format) :
    Capabilities.unformattable.admits (some capability) = true := by
  cases capability <;> first | rfl | exact absurd rfl h

/-- A copied offset goes to its byte. -/
theorem toGenerated?_primary_of_keeps (h : Fits inlineAttributes text options.fileName)
    {offset : Nat} (hkeeps : (Parts.of text).Keeps text inlineAttributes offset)
    {capability : Capability} (hcapability : capability ≠ .format) :
    ∃ place byte,
      (primary inlineAttributes text options).mapping.toGenerated? (some capability) offset =
        some place ∧
      (utf8 (primary inlineAttributes text options).text)[place]? = some byte ∧
      (utf8 text)[offset]? = some byte := by
  obtain ⟨segments, hcompiled, hsource, hheld⟩ := exists_compiled h
  have hsound := Virtual.sound_compiled (compiler inlineAttributes) text options
  rw [primary]
  rw [hcompiled] at hsound ⊢
  obtain ⟨segment, hsegment, hholds⟩ := (hheld offset).mpr hkeeps
  have hmem : segment ∈ segments ++ [.anchor (Virtual.firstStatement
      (compile inlineAttributes text options.fileName).code)] := List.mem_append_left _ hsegment
  have hties := Virtual.ties_primaryFile options hsound segment
    ((Virtual.segments_primaryFile_perm options _ segments).mem_iff.mpr hmem)
  have hadmits : segment.capabilities.admits (some capability) = true := by
    rw [(hsound segment hsegment).capabilities]
    exact admits_unformattable hcapability
  have hfind := OffsetMapping.find?_of_holds
    (OffsetMapping.disjointOn_append_anchor hsource.disjointOn) hmem hholds hadmits
  have hlt : offset < (utf8 text).length := by
    rw [length_utf8]
    exact Nat.lt_of_lt_of_le hholds.2 hties.faithful.source_inside
  have hbyte := hties.utf8_getElem?_eq hholds
  rw [List.getElem?_eq_getElem hlt] at hbyte
  refine ⟨_, _, ?_, hbyte, List.getElem?_eq_getElem hlt⟩
  have hlength := (hsound segment hsegment).ties.faithful.length_eq
  have hoffset : interpolate offset segment.source segment.generated =
      segment.generated.start + (offset - segment.source.start) := by
    have hstart := hholds.1
    have hstop := hholds.2
    simp only [Side.span] at hstart hstop
    simp only [interpolate, Span.length] at hlength ⊢
    omega
  simp only [OffsetMapping.toGenerated?, OffsetMapping.across?, Virtual.primaryFile, hfind,
    Option.map_some]
  exact congrArg some hoffset

/-- Nothing can be formatted through the primary file. -/
theorem toGenerated?_primary_format (offset : Nat) :
    (primary inlineAttributes text options).mapping.toGenerated? (some .format) offset = none := by
  have hsound := Virtual.sound_compiled (compiler inlineAttributes) text options
  rw [primary]
  generalize Virtual.compiled (compiler inlineAttributes) text options = compiled at hsound ⊢
  have hformat : ∀ segment ∈ compiled.2 ++ [.anchor (Virtual.firstStatement compiled.1)],
      segment.capabilities.admits (some .format) = false := by
    intro segment hmem
    exact Virtual.format_primaryFile hsound segment
      ((Virtual.segments_primaryFile_perm options _ _).mem_iff.mpr hmem)
  have hfind : (Virtual.primaryFile options compiled.1 compiled.2).mapping.find? .source
      (some .format) offset = none := by
    apply OffsetMapping.find?_eq_none
    · intro segment hmem hadmits
      rw [hformat segment hmem] at hadmits
      cases hadmits
    · intro segment hmem
      simp [OffsetMapping.pointing, hformat segment hmem]
  rw [OffsetMapping.toGenerated?, OffsetMapping.across?, hfind]
  rfl

/-- An offset goes nowhere if the code copies neither what stands in front of it nor what follows,
unless it is the first of the document. -/
theorem toGenerated?_primary_eq_none (h : Fits inlineAttributes text options.fileName)
    {offset : Nat} (hhere : ¬ (Parts.of text).Keeps text inlineAttributes offset)
    (hbefore : ¬ (Parts.of text).Keeps text inlineAttributes (offset - 1)) (hpos : 0 < offset)
    (wanted : Option Capability) :
    (primary inlineAttributes text options).mapping.toGenerated? wanted offset = none := by
  obtain ⟨segments, hcompiled, -, hheld⟩ := exists_compiled h
  have hsound := Virtual.sound_compiled (compiler inlineAttributes) text options
  rw [hcompiled] at hsound
  rw [← hheld] at hhere hbefore
  have hfind : (primary inlineAttributes text options).mapping.find? .source wanted offset =
      none := by
    rw [primary, hcompiled]
    apply OffsetMapping.find?_eq_none
    · rintro segment hmem - hnonempty ⟨hstart, hstop⟩
      rw [Span.isEmpty_eq_false] at hnonempty
      rcases List.mem_append.mp hmem with hmem | hmem
      · -- A segment that reaches the offset holds it or ends there, and then it holds what is before.
        by_cases hends : (Side.source.span segment).stop = offset
        · exact hbefore ⟨segment, hmem, by omega, by omega⟩
        · exact hhere ⟨segment, hmem, hstart, by omega⟩
      · rw [List.mem_singleton] at hmem
        subst hmem
        exact absurd hnonempty (Nat.lt_irrefl _)
    · intro segment hmem
      rcases List.mem_append.mp hmem with hmem | hmem
      · have hnonempty := Span.isEmpty_eq_false.mpr (hsound segment hmem).nonempty
        simp [OffsetMapping.pointing, Side.span, hnonempty]
      · rw [List.mem_singleton] at hmem
        have hne : ¬ 0 = offset := by omega
        simp [OffsetMapping.pointing, hmem, Segment.anchor, Side.span, hne]
  rw [OffsetMapping.toGenerated?, OffsetMapping.across?, hfind]
  rfl

end ComponentServer.Tsx
