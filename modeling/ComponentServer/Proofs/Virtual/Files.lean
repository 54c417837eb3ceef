import ComponentServer.Proofs.Mapping.Recovered
import ComponentServer.Proofs.Markup.Layout
import ComponentServer.Virtual.Generate

/-!
# Virtual files tie equal text

The primary file holds the segments recovered from the compiler's source map and one anchor; the
files of single blocks hold a slice of the document. Nothing is asked of the compiler: where it
fails, or where its source map cannot be read, the primary file is empty and holds the anchor alone.
-/

namespace ComponentServer.Virtual

open Markup Text

/-! ### The first statement -/

theorem skipTrivia_suffix (code : Text) : skipTrivia code <:+ code := by
  fun_induction skipTrivia code with
  | case1 code rest h ih =>
    have htrim : ('/' :: '/' :: rest) <:+ code := h ▸ List.dropWhile_suffix _
    have hrest : rest <:+ '/' :: '/' :: rest := ⟨['/', '/'], rfl⟩
    exact ih.trans ((List.dropWhile_suffix _).trans (hrest.trans htrim))
  | case2 code rest h comment following hcut ih =>
    have htrim : ('/' :: '*' :: rest) <:+ code := h ▸ List.dropWhile_suffix _
    have hrest : rest <:+ '/' :: '*' :: rest := ⟨['/', '*'], rfl⟩
    have hfollowing : following <:+ rest := ⟨comment, cutWhere?_append hcut⟩
    exact ih.trans ((List.drop_suffix _ _).trans (hfollowing.trans (hrest.trans htrim)))
  | case3 code rest h hcut => exact List.nil_suffix
  | case4 code hline hblock => exact List.dropWhile_suffix _

theorem isBoundary_firstStatement (code : Text) : IsBoundary code (firstStatement code) := by
  obtain ⟨trivia, htrivia⟩ := skipTrivia_suffix code
  refine ⟨trivia, skipTrivia code, htrivia.symm, ?_⟩
  have hsize := congrArg size htrivia
  rw [size_append] at hsize
  rw [firstStatement]
  omega

/-! ### The primary file -/

/-- The code of the primary file and the segments of its source map; there is neither where the
compiler fails or its source map cannot be read. -/
def compiled (compiler : Compiler) (text : Text) (options : Options) : Text × List Segment :=
  match compiler text options.fileName with
  | .error _ => ([], [])
  | .ok output =>
    match SourceMap.parse output.map with
    | .error _ => ([], [])
    | .ok mappings => (output.code, Recovery.segments text output.code mappings)

variable {compiler : Compiler} {text : Text} {options : Options}

theorem primary_generate (blocks : List Block) :
    (generate compiler text blocks options).primary =
      primaryFile options (compiled compiler text options).1 (compiled compiler text options).2 := by
  unfold generate compilePrimary compiled
  cases compiler text options.fileName with
  | error failure => rfl
  | ok output =>
    cases hparse : SourceMap.parse output.map with
    | error error => simp [hparse, Except.mapError, bind, Except.bind]
    | ok mappings => simp [hparse, Except.mapError, bind, Except.bind, pure, Except.pure]

theorem sound_compiled (compiler : Compiler) (text : Text) (options : Options) :
    ∀ segment ∈ (compiled compiler text options).2,
      Recovery.Sound text (compiled compiler text options).1 segment := by
  unfold compiled
  split
  · simp
  · split
    · simp
    · exact Recovery.sound_segments _ _ _

theorem exists_withAmbient_eq (code ambient : Text) :
    ∃ more, withAmbient code ambient = code ++ more := by
  unfold withAmbient
  split
  · exact ⟨[], by simp⟩
  · split
    · exact ⟨ambient, rfl⟩
    · exact ⟨'\n' :: ambient, rfl⟩

theorem segments_primaryFile_perm (options : Options) (code : Text) (segments : List Segment) :
    (primaryFile options code segments).mapping.segments.Perm
      (segments ++ [.anchor (firstStatement code)]) :=
  List.mergeSort_perm _ _

theorem ties_primaryFile (options : Options) {code : Text} {segments : List Segment}
    (h : ∀ segment ∈ segments, Recovery.Sound text code segment) :
    ∀ segment ∈ (primaryFile options code segments).mapping.segments,
      segment.Ties text (primaryFile options code segments).text := by
  obtain ⟨more, hmore⟩ := exists_withAmbient_eq code options.ambientDeclarations
  intro segment hmem
  have hmem' := (segments_primaryFile_perm options code segments).mem_iff.mp hmem
  have hties : segment.Ties text code := by
    rcases List.mem_append.mp hmem' with hmem' | hmem'
    · exact (h segment hmem').ties
    · rw [List.mem_singleton] at hmem'
      exact hmem' ▸ ties_anchor text (isBoundary_firstStatement code)
  have htext : (primaryFile options code segments).text = code ++ more := hmore
  rw [htext]
  exact hties.append_right more

/-- Only the anchor stands on no stretch of the document. -/
theorem filter_isEmpty_primaryFile {code : Text} {segments : List Segment}
    (h : ∀ segment ∈ segments, Recovery.Sound text code segment) :
    (primaryFile options code segments).mapping.segments.filter (·.source.isEmpty) =
      [.anchor (firstStatement code)] := by
  have hnone : segments.filter (·.source.isEmpty) = [] := by
    rw [List.filter_eq_nil_iff]
    intro segment hmem
    simp [Span.isEmpty, (h segment hmem).nonempty]
  have hperm := (segments_primaryFile_perm options code segments).filter (·.source.isEmpty)
  rw [List.filter_append, hnone] at hperm
  exact List.perm_singleton.mp hperm

theorem format_primaryFile {code : Text} {segments : List Segment}
    (h : ∀ segment ∈ segments, Recovery.Sound text code segment) :
    ∀ segment ∈ (primaryFile options code segments).mapping.segments,
      segment.capabilities.supports .format = false := by
  intro segment hmem
  rcases List.mem_append.mp ((segments_primaryFile_perm options code segments).mem_iff.mp hmem) with
    hmem | hmem
  · rw [(h segment hmem).capabilities]
    rfl
  · rw [List.mem_singleton] at hmem
    rw [hmem]
    rfl

/-! ### The files of single blocks -/

theorem exists_block_of_mem_satellites {blocks : List Block} {file : VirtualFile}
    (h : file ∈ satellites options blocks) :
    ∃ name kind, ∃ block ∈ blocks, file = blockFile options name kind block := by
  obtain ⟨⟨block, index⟩, hmem, rfl⟩ := List.mem_map.mp h
  have hblock := List.fst_mem_of_mem_zipIdx (List.mem_filter.mp hmem).1
  exact ⟨_, _, block, (List.mem_filter.mp hblock).1, rfl⟩

theorem exists_block_of_mem_styles {blocks : List Block} {file : VirtualFile}
    (h : file ∈ styles options blocks) :
    ∃ name kind, ∃ block ∈ blocks, file = blockFile options name kind block := by
  obtain ⟨⟨block, index⟩, hmem, rfl⟩ := List.mem_map.mp h
  have hblock := List.fst_mem_of_mem_zipIdx hmem
  exact ⟨_, _, block, (List.mem_filter.mp hblock).1, rfl⟩

theorem content_of_mem_extract {start : Nat} {block : Block}
    (h : block ∈ Block.extract (Tree.parse text start) text) :
    block.content = text.slice block.span ∧ IsBoundary text block.span.start ∧
      IsBoundary text block.span.stop ∧ block.span.start ≤ block.span.stop := by
  obtain ⟨element, hmem, hblock⟩ := List.mem_filterMap.mp h
  have hplaced := Tree.placed_of_mem_elements hmem
  simp only [Block.ofElement?, Option.bind_eq_bind, Option.bind_eq_some_iff, Option.pure_def,
    Option.some.injEq] at hblock
  obtain ⟨kind, -, span, -, content, hget, rfl⟩ := hblock
  obtain ⟨⟨hle, hstart, hstop⟩, hslice⟩ := get?_eq_some_iff.mp hget
  exact ⟨hslice.symm, hstart, hstop, hle⟩

theorem ties_blockFile {start : Nat} {block : Block} {name : Text} {kind : VirtualKind}
    (h : block ∈ Block.extract (Tree.parse text start) text) :
    ∀ segment ∈ (blockFile options name kind block).mapping.segments,
      segment.Ties text (blockFile options name kind block).text := by
  obtain ⟨hcontent, hstart, hstop, hle⟩ := content_of_mem_extract h
  intro segment hmem
  have hmem' := (List.mergeSort_perm _ _).mem_iff.mp hmem
  rw [List.mem_singleton] at hmem'
  have htext : (blockFile options name kind block).text = text.slice block.span := hcontent
  rw [hmem', htext]
  exact ties_ofLength_slice hstart hstop hle .all

/-- **Every segment of every virtual file is faithful, whatever the compiler does.** In the primary
file none of them lets formatting through, and just the anchor at the first statement stands on no
stretch of the document. -/
theorem faithful_generate (compiler : Compiler) (text : Text) (start : Nat) (options : Options) :
    let generated := generate compiler text (Block.extract (Tree.parse text start) text) options
    (∀ file ∈ generated.files, ∀ segment ∈ file.mapping.segments,
      segment.Faithful text file.text) ∧
    (∀ segment ∈ generated.primary.mapping.segments,
      segment.capabilities.supports .format = false) ∧
    generated.primary.mapping.segments.filter (·.source.isEmpty) =
      [.anchor (firstStatement (compiled compiler text options).1)] := by
  intro generated
  have hprimary : generated.primary = primaryFile options (compiled compiler text options).1
      (compiled compiler text options).2 := primary_generate _
  have hsound := sound_compiled compiler text options
  refine ⟨?_, ?_, ?_⟩
  · intro file hfile segment hmem
    apply Segment.Ties.faithful
    rw [Generated.files, List.mem_cons, List.mem_append] at hfile
    rcases hfile with rfl | hfile | hfile
    · rw [hprimary] at hmem ⊢
      exact ties_primaryFile options hsound segment hmem
    · obtain ⟨name, kind, block, hblock, rfl⟩ := exists_block_of_mem_satellites hfile
      exact ties_blockFile hblock segment hmem
    · obtain ⟨name, kind, block, hblock, rfl⟩ := exists_block_of_mem_styles hfile
      exact ties_blockFile hblock segment hmem
  · rw [hprimary]
    exact format_primaryFile hsound
  · rw [hprimary]
    exact filter_isEmpty_primaryFile hsound

end ComponentServer.Virtual
