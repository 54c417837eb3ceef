import ComponentServer.Proofs.Tsx.Compiled
import ComponentServer.Snapshot

/-!
# Every block is served by one place

A module script and a style have a file of their own, which answers for every offset of their
content, the end included. An inline script has none: its content stands in the primary file. Data is
nowhere. The compiler and the files of single blocks read the document on their own, and the search
goes through all files in turn; what keeps the answers apart is that no two contents touch.
-/

namespace ComponentServer

open Text Markup

/-! ### One file -/

theorem Capabilities.admits_all (wanted : Option Capability) :
    Capabilities.all.admits wanted = true := by
  cases wanted with
  | none => rfl
  | some capability => cases capability <;> rfl

/-- One segment that admits all answers from its start to its end, also where both are one. -/
theorem OffsetMapping.find?_single {segment : Segment} {wanted : Option Capability} {offset : Nat}
    (hadmits : segment.capabilities.admits wanted = true)
    (hle : segment.source.start ≤ segment.source.stop) :
    (ofSegments [segment]).find? .source wanted offset =
      if segment.source.start ≤ offset ∧ offset ≤ segment.source.stop then some segment
      else none := by
  have hordered : (ofSegments [segment]).ordered .source = [segment] := by
    simp [ofSegments, ordered]
  rw [find?, hordered]
  by_cases hstart : segment.source.start ≤ offset
  · have htake : [segment].takeWhile (fun segment =>
        decide ((Side.source.span segment).start ≤ offset)) = [segment] := by
      simp [Side.span, hstart]
    rw [htake, List.reverse_singleton, pick]
    cases hempty : segment.source.isEmpty with
    | true =>
      rw [Span.isEmpty_eq_true] at hempty
      have hiff : segment.source.start = offset ↔ offset ≤ segment.source.stop := by omega
      simp [Side.span, Span.isEmpty_eq_true.mpr hempty, hadmits, hiff, hstart, pick]
    | false =>
      by_cases hin : offset ≤ segment.source.stop
      · have hreached : ¬ segment.source.stop < offset := by omega
        simp [Side.span, hempty, hadmits, hstart, hin, hreached, pick]
      · have hpassed : segment.source.stop < offset := by omega
        simp [Side.span, hempty, hin, hpassed]
  · simp [Side.span, hstart, pick]

/-- The file of a stretch answers for all of it, its end included, and for nothing else. -/
theorem OffsetMapping.toGenerated?_identity {span : Span} (hle : span.start ≤ span.stop)
    (wanted : Option Capability) (offset : Nat) :
    (identity span .all).toGenerated? wanted offset =
      if span.start ≤ offset ∧ offset ≤ span.stop then some (offset - span.start) else none := by
  have hstop : span.start + span.length = span.stop := by
    rw [Span.length]
    omega
  have hsegment : Segment.ofLength span.start 0 span.length .all =
      ⟨span, ⟨0, span.length⟩, .all⟩ := by
    rw [Segment.ofLength, hstop, Nat.zero_add]
  rw [toGenerated?, across?, identity, hsegment, find?_single (Capabilities.admits_all wanted) hle]
  by_cases hin : span.start ≤ offset ∧ offset ≤ span.stop
  · have hinside : offset - span.start ≤ span.length := by omega
    rw [if_pos hin, if_pos hin, Option.map_some]
    simp only [interpolate, Side.span, Side.other, Span.length, Nat.sub_zero, Nat.zero_add]
    rw [Nat.min_eq_left (by simpa [Span.length] using hinside)]
  · rw [if_neg hin, if_neg hin, Option.map_none]

namespace Virtual

variable {options : Options} {blocks : List Block} {file : VirtualFile}

/-- The file of a block that is numbered among those of its kind. -/
def fileOf (options : Options) (index : Nat) (block : Block) : VirtualFile :=
  match block.kind with
  | .script =>
    blockFile options (".__script_".toList ++ Text.ofNat index ++ ".mts".toList) (.script index)
      block
  | .style =>
    blockFile options
      (".__style_".toList ++ Text.ofNat index ++ ['.'] ++ block.language?.getD "css".toList)
      (.style index) block

/-- The files of the blocks of one kind. -/
def filesOf (options : Options) (blocks : List Block) : BlockKind → List VirtualFile
  | .script => satellites options blocks
  | .style => styles options blocks

/-- The kind of a block's file. -/
def kindOf : BlockKind → Nat → VirtualKind
  | .script => .script
  | .style => .style

@[simp]
theorem kind_fileOf (options : Options) (index : Nat) (block : Block) :
    (fileOf options index block).kind = kindOf block.kind index := by
  cases hkind : block.kind <;> simp [fileOf, hkind, blockFile, kindOf]

/-- The file of a numbered block, if it has one. -/
def fileOf? (options : Options) (entry : Block × Nat) : Option VirtualFile :=
  if entry.1.kind = .script → entry.1.mode options.inlineAttributes = .module then
    some (fileOf options entry.2 entry.1)
  else none

theorem filesOf_eq_filterMap (options : Options) (blocks : List Block) (kind : BlockKind) :
    filesOf options blocks kind =
      (blocks.filter (·.kind == kind)).zipIdx.filterMap (fileOf? options) := by
  have hkind : ∀ entry ∈ (blocks.filter (·.kind == kind)).zipIdx, entry.1.kind = kind := by
    intro entry hmem
    have hblock := List.mem_of_getElem? (List.mem_zipIdx_iff_getElem?.mp hmem)
    simpa using (List.mem_filter.mp hblock).2
  cases kind with
  | script =>
    rw [filesOf, satellites, ← List.filterMap_eq_map, ← List.filterMap_eq_filter,
      List.filterMap_filterMap]
    refine List.filterMap_congr fun entry hmem => ?_
    rw [fileOf?, fileOf, hkind entry hmem]
    by_cases hmode : entry.1.mode options.inlineAttributes = .module
    · rw [if_pos fun _ => hmode, Option.guard, if_pos (by simpa using hmode), Option.bind_some]
      rfl
    · rw [if_neg fun h => hmode (h rfl), Option.guard, if_neg (by simpa using hmode),
        Option.bind_none]
  | style =>
    rw [filesOf, styles, ← List.filterMap_eq_map]
    refine List.filterMap_congr fun entry hmem => ?_
    rw [fileOf?, fileOf, hkind entry hmem, if_pos nofun]
    rfl

theorem mem_filesOf_iff {kind : BlockKind} : file ∈ filesOf options blocks kind ↔
    ∃ index block, (blocks.filter (·.kind == kind))[index]? = some block ∧
      (block.kind = .script → block.mode options.inlineAttributes = .module) ∧
      file = fileOf options index block := by
  rw [filesOf_eq_filterMap, List.mem_filterMap]
  constructor
  · rintro ⟨⟨block, index⟩, hmem, hfile⟩
    rw [fileOf?, Option.ite_none_right_eq_some, Option.some.injEq] at hfile
    exact ⟨index, block, List.mem_zipIdx_iff_getElem?.mp hmem, hfile.1, hfile.2.symm⟩
  · rintro ⟨index, block, hindex, hmode, rfl⟩
    exact ⟨(block, index), List.mem_zipIdx_iff_getElem?.mpr hindex, if_pos hmode⟩

theorem toGenerated?_fileOf {block : Block} (hle : block.span.start ≤ block.span.stop)
    (index : Nat) (wanted : Option Capability) (offset : Nat) :
    (fileOf options index block).mapping.toGenerated? wanted offset =
      if block.contains offset then some (offset - block.span.start) else none := by
  have hmapping : (fileOf options index block).mapping = .identity block.span .all := by
    unfold fileOf
    split <;> rfl
  rw [hmapping, OffsetMapping.toGenerated?_identity hle]
  simp [Block.contains]

end Virtual

/-- The number of a block among those of its kind, with the given blocks in front of it. -/
def Block.ordinal (before : List Block) (block : Block) : Nat :=
  (before.filter (·.kind == block.kind)).length

theorem Block.getElem?_ordinal (before after : List Block) (block : Block) :
    ((before ++ block :: after).filter (·.kind == block.kind))[ordinal before block]? =
      some block := by
  simp [ordinal]

theorem Block.Separate.eq_ordinal {before after : List Block} {block : Block}
    (h : Separate (before ++ block :: after)) {index : Nat}
    (hindex : ((before ++ block :: after).filter (·.kind == block.kind))[index]? = some block) :
    index = ordinal before block := by
  have hordinal := getElem?_ordinal before after block
  have hlt := (List.getElem?_eq_some_iff.mp hindex).1
  exact (List.getElem?_inj hlt (h.nodup.filter _)).mp (hindex.trans hordinal.symm)

namespace Virtual

variable {options : Options} {file : VirtualFile} {before after : List Block} {block : Block}

/-- The number of a file tells which block it is of. -/
theorem eq_fileOf_of_kind (hfile : file ∈ filesOf options (before ++ block :: after) block.kind)
    (hnumber : file.kind = kindOf block.kind (block.ordinal before)) :
    (block.kind = .script → block.mode options.inlineAttributes = .module) ∧
      file = fileOf options (block.ordinal before) block := by
  obtain ⟨index, other, hindex, hmode, rfl⟩ := mem_filesOf_iff.mp hfile
  have hkind : other.kind = block.kind := by
    simpa using (List.mem_filter.mp (List.mem_of_getElem? hindex)).2
  have hordinal : index = block.ordinal before := by
    rw [kind_fileOf, hkind] at hnumber
    cases hblock : block.kind <;> simpa [hblock, kindOf] using hnumber
  rw [hordinal, Block.getElem?_ordinal] at hindex
  cases hindex
  exact ⟨hmode, by rw [hordinal]⟩

/-- Only the file of the block that contains an offset answers for it. -/
theorem eq_fileOf_of_toGenerated?_eq_some {kind : BlockKind} {wanted : Option Capability}
    {offset place : Nat} (hseparate : Block.Separate (before ++ block :: after))
    (hin : block.contains offset = true)
    (hfile : file ∈ filesOf options (before ++ block :: after) kind)
    (hplace : file.mapping.toGenerated? wanted offset = some place) :
    (block.kind = .script → block.mode options.inlineAttributes = .module) ∧
      file = fileOf options (block.ordinal before) block ∧ place = offset - block.span.start := by
  obtain ⟨index, other, hindex, hmode, rfl⟩ := mem_filesOf_iff.mp hfile
  obtain ⟨hother, hkind⟩ := List.mem_filter.mp (List.mem_of_getElem? hindex)
  rw [beq_iff_eq] at hkind
  subst hkind
  rw [toGenerated?_fileOf (hseparate.le other hother)] at hplace
  split at hplace
  next hcontains =>
    have hsame := hseparate.eq_of_contains hother (by simp) hcontains hin
    subst hsame
    exact ⟨hmode, by rw [hseparate.eq_ordinal hindex], (Option.some.inj hplace).symm⟩
  next => cases hplace

end Virtual

/-! ### Snapshots -/

/-- The integration of the framework that a file belongs to. -/
def Language.integration? (language : Language) (fileName : Text) : Option Integration :=
  match language.kindOf fileName with
  | .framework extension => language.frameworks.find? extension
  | .component => none

theorem Language.integration?_ofInlineAttributes (inlineAttributes : List Text) (fileName : Text) :
    (ofInlineAttributes inlineAttributes).integration? fileName = none := by
  have hfind : ∀ extension, (ofInlineAttributes inlineAttributes).frameworks.find? extension =
      none := fun _ => rfl
  simp [integration?, kindOf, hfind]

def Language.options (language : Language) (fileName : Text) (version : Nat) : Virtual.Options where
  fileName := fileName
  version := version
  inlineAttributes := language.inlineAttributes
  ambientDeclarations := language.ambientDeclarations

namespace Snapshot

variable {fileName text : Text} {version : Nat} {clientVersion : Int} {language : Language}

/-- Of the files, this one alone is of the kind, and it answers for all of the block, its end
included. -/
structure ServedBy (snapshot : Snapshot) (block : Block) (files : List VirtualFile)
    (kind : VirtualKind) (file : VirtualFile) : Prop where
  unique : ∀ other, other ∈ files ∧ other.kind = kind ↔ other = file
  text : file.text = block.content
  located : ∀ offset capability, block.span.start ≤ offset → offset ≤ block.span.stop →
    snapshot.locate? offset capability = some (file, offset - block.span.start)

/-- How a snapshot serves a block that has the blocks `before` in front of it. What stands in the
primary file is found as long as lines and columns fit words of 32 bits. -/
structure Serves (snapshot : Snapshot) (inlineAttributes : List Text) (before : List Block)
    (block : Block) : Prop where
  module : block.kind = .script → block.mode inlineAttributes = .module →
    ∃ file, snapshot.ServedBy block snapshot.generated.satellites
      (.script (block.ordinal before)) file
  style : block.kind = .style →
    ∃ file, snapshot.ServedBy block snapshot.generated.styles (.style (block.ordinal before)) file
  inline : block.kind = .script → block.mode inlineAttributes = .inline →
    (∀ file ∈ snapshot.generated.satellites, file.kind ≠ .script (block.ordinal before)) ∧
    (∀ offset, block.span.Holds offset → snapshot.locate? offset .format = none) ∧
    (Tsx.Fits inlineAttributes snapshot.text snapshot.fileName →
      ∀ offset capability, block.span.Holds offset → capability ≠ .format →
      ∃ place byte, snapshot.locate? offset capability = some (snapshot.primary, place) ∧
        (utf8 snapshot.primary.text)[place]? = some byte ∧
        (utf8 snapshot.text)[offset]? = some byte)
  data : block.kind = .script → block.mode inlineAttributes = .data →
    Tsx.Fits inlineAttributes snapshot.text snapshot.fileName →
    ∀ offset capability, block.span.start < offset → offset < block.span.stop →
      snapshot.locate? offset capability = none

/-- The snapshot holds what is derived of a component by the built-in compiler. -/
structure IsComponent (snapshot : Snapshot) (options : Virtual.Options) : Prop where
  fileName : snapshot.fileName = options.fileName
  blocks : snapshot.blocks = (Tsx.Parts.of snapshot.text).blocks
  generated : snapshot.generated =
    Virtual.generate (Tsx.compiler options.inlineAttributes) snapshot.text snapshot.blocks options

/-- Where no integration serves the file, the snapshot holds the parts of the document. -/
theorem derive_eq (h : language.integration? fileName = none) :
    derive fileName text version clientVersion language =
      { fileName, version, clientVersion, language := language.kindOf fileName, text
        frontmatter := (Tsx.Parts.of text).frontmatter
        tree := (Tsx.Parts.of text).tree
        blocks := (Tsx.Parts.of text).blocks
        generated := language.generate text (Tsx.Parts.of text).blocks fileName version } := by
  unfold Language.integration? at h
  cases hkind : language.kindOf fileName with
  | component => simp [derive, hkind]
  | framework extension =>
    have hfind : language.frameworks.find? extension = none := by simpa [hkind] using h
    simp [derive, hkind, Language.generateFramework?, hfind]

theorem isComponent_derive (hcompiler : language.compiler = Tsx.compiler language.inlineAttributes)
    (h : language.integration? fileName = none) :
    (derive fileName text version clientVersion language).IsComponent
      (language.options fileName version) ∧
    (derive fileName text version clientVersion language).text = text := by
  rw [derive_eq h]
  refine ⟨⟨rfl, rfl, ?_⟩, rfl⟩
  have hsame : language.compiler =
      Tsx.compiler (language.options fileName version).inlineAttributes := hcompiler
  rw [← hsame]
  rfl

theorem isComponent_ofInlineAttributes (fileName text : Text) (version : Nat) (clientVersion : Int)
    (inlineAttributes : List Text) :
    (derive fileName text version clientVersion (.ofInlineAttributes inlineAttributes)).IsComponent
      ((Language.ofInlineAttributes inlineAttributes).options fileName version) ∧
    (derive fileName text version clientVersion
      (.ofInlineAttributes inlineAttributes)).text = text :=
  isComponent_derive rfl (Language.integration?_ofInlineAttributes inlineAttributes fileName)

namespace IsComponent

variable {snapshot : Snapshot} {options : Virtual.Options} {before after : List Block}
  {block : Block} {offset : Nat} {capability : Capability}

theorem primary_eq (h : snapshot.IsComponent options) :
    snapshot.primary = Tsx.primary options.inlineAttributes snapshot.text options := by
  rw [Snapshot.primary, h.generated]
  exact Virtual.primary_generate _

theorem satellites_eq (h : snapshot.IsComponent options) :
    snapshot.generated.satellites = Virtual.filesOf options snapshot.blocks .script := by
  rw [h.generated]
  rfl

theorem styles_eq (h : snapshot.IsComponent options) :
    snapshot.generated.styles = Virtual.filesOf options snapshot.blocks .style := by
  rw [h.generated]
  rfl

theorem separate (h : snapshot.IsComponent options) : Block.Separate snapshot.blocks := by
  rw [h.blocks]
  exact Block.separate_extract _ _

/-- The files of single blocks, in the order in which they are asked. -/
theorem locate?_eq (h : snapshot.IsComponent options) :
    snapshot.locate? offset capability =
      (([BlockKind.script, .style].flatMap (Virtual.filesOf options snapshot.blocks)).findSome?
        fun file => (file.mapping.toGenerated? (some capability) offset).map fun place =>
          (file, place)).or
      ((snapshot.primary.mapping.toGenerated? (some capability) offset).map fun place =>
        (snapshot.primary, place)) := by
  simp [locate?, h.satellites_eq, h.styles_eq, Snapshot.primary, Option.or_assoc]

theorem mem_flatMap_filesOf {kind : BlockKind} {file : VirtualFile} {blocks : List Block}
    (h : file ∈ Virtual.filesOf options blocks kind) :
    file ∈ [BlockKind.script, .style].flatMap (Virtual.filesOf options blocks) :=
  List.mem_flatMap.mpr ⟨kind, by cases kind <;> simp, h⟩

/-- The file of a block is found at all offsets of the block. -/
theorem locate?_fileOf (h : snapshot.IsComponent options)
    (hblocks : snapshot.blocks = before ++ block :: after)
    (hfile : Virtual.fileOf options (block.ordinal before) block ∈
      Virtual.filesOf options snapshot.blocks block.kind) (hin : block.contains offset = true) :
    snapshot.locate? offset capability =
      some (Virtual.fileOf options (block.ordinal before) block, offset - block.span.start) := by
  have hseparate := h.separate
  rw [h.locate?_eq]
  rw [hblocks] at hseparate hfile ⊢
  have hplace : (Virtual.fileOf options (block.ordinal before) block).mapping.toGenerated?
      (some capability) offset = some (offset - block.span.start) := by
    rw [Virtual.toGenerated?_fileOf (hseparate.le block (by simp)), if_pos hin]
  cases hfound : ([BlockKind.script, .style].flatMap (Virtual.filesOf options
      (before ++ block :: after))).findSome? fun file =>
        (file.mapping.toGenerated? (some capability) offset).map fun place => (file, place) with
  | none =>
    have hnone := List.findSome?_eq_none_iff.mp hfound _ (mem_flatMap_filesOf hfile)
    rw [hplace] at hnone
    cases hnone
  | some found =>
    obtain ⟨file, hmem, hanswer⟩ := List.exists_of_findSome?_eq_some hfound
    obtain ⟨place, hplace', rfl⟩ := Option.map_eq_some_iff.mp hanswer
    obtain ⟨kind, -, hmem⟩ := List.mem_flatMap.mp hmem
    obtain ⟨-, rfl, rfl⟩ := Virtual.eq_fileOf_of_toGenerated?_eq_some hseparate hin hmem hplace'
    rfl

/-- Where the block has no file, the primary file is asked. -/
theorem locate?_of_no_file (h : snapshot.IsComponent options)
    (hblocks : snapshot.blocks = before ++ block :: after) (hkind : block.kind = .script)
    (hmode : block.mode options.inlineAttributes ≠ .module) (hin : block.contains offset = true) :
    snapshot.locate? offset capability =
      (snapshot.primary.mapping.toGenerated? (some capability) offset).map fun place =>
        (snapshot.primary, place) := by
  have hseparate := h.separate
  rw [h.locate?_eq]
  rw [hblocks] at hseparate ⊢
  have hnone : (([BlockKind.script, .style].flatMap (Virtual.filesOf options
      (before ++ block :: after))).findSome? fun file =>
        (file.mapping.toGenerated? (some capability) offset).map fun place => (file, place)) =
      none := by
    rw [List.findSome?_eq_none_iff]
    intro file hmem
    obtain ⟨kind, -, hmem⟩ := List.mem_flatMap.mp hmem
    cases hplace : file.mapping.toGenerated? (some capability) offset with
    | none => rfl
    | some place =>
      have hmodule := (Virtual.eq_fileOf_of_toGenerated?_eq_some hseparate hin hmem hplace).1
      exact absurd (hmodule hkind) hmode
  rw [hnone, Option.none_or]

theorem servedBy_fileOf (h : snapshot.IsComponent options)
    (hblocks : snapshot.blocks = before ++ block :: after)
    (hmode : block.kind = .script → block.mode options.inlineAttributes = .module) :
    snapshot.ServedBy block (Virtual.filesOf options snapshot.blocks block.kind)
      (Virtual.kindOf block.kind (block.ordinal before))
      (Virtual.fileOf options (block.ordinal before) block) := by
  have hordinal := Block.getElem?_ordinal before after block
  rw [← hblocks] at hordinal
  have hmem : Virtual.fileOf options (block.ordinal before) block ∈
      Virtual.filesOf options snapshot.blocks block.kind :=
    Virtual.mem_filesOf_iff.mpr ⟨_, block, hordinal, hmode, rfl⟩
  refine ⟨?_, ?_, ?_⟩
  · intro other
    constructor
    · rintro ⟨hother, hnumber⟩
      rw [hblocks] at hother
      exact (Virtual.eq_fileOf_of_kind hother hnumber).2
    · rintro rfl
      exact ⟨hmem, Virtual.kind_fileOf ..⟩
  · unfold Virtual.fileOf
    split <;> rfl
  · intro offset capability hstart hstop
    exact h.locate?_fileOf hblocks hmem (by simp [Block.contains, hstart, hstop])

theorem serves (h : snapshot.IsComponent options)
    (hblocks : snapshot.blocks = before ++ block :: after) :
    snapshot.Serves options.inlineAttributes before block := by
  have hmem : block ∈ (Tsx.Parts.of snapshot.text).blocks := by
    rw [← h.blocks, hblocks]
    simp
  constructor
  · intro hkind hmode
    have hserved := h.servedBy_fileOf hblocks fun _ => hmode
    rw [hkind] at hserved
    rw [h.satellites_eq]
    exact ⟨_, hserved⟩
  · intro hkind
    have hserved := h.servedBy_fileOf hblocks (by simp [hkind])
    rw [hkind] at hserved
    rw [h.styles_eq]
    exact ⟨_, hserved⟩
  · intro hkind hmode
    have hlocate : ∀ offset capability, block.span.Holds offset →
        snapshot.locate? offset capability =
          (snapshot.primary.mapping.toGenerated? (some capability) offset).map fun place =>
            (snapshot.primary, place) := by
      intro offset capability hholds
      exact h.locate?_of_no_file hblocks hkind (by simp [hmode])
        (by simp [Block.contains, hholds.1, Nat.le_of_lt hholds.2])
    refine ⟨?_, ?_, ?_⟩
    · intro file hfile hnumber
      rw [h.satellites_eq, hblocks, ← hkind] at hfile
      have hmodule := (Virtual.eq_fileOf_of_kind hfile (by rw [hnumber, hkind]; rfl)).1 hkind
      simp [hmode] at hmodule
    · intro offset hholds
      rw [hlocate offset _ hholds, h.primary_eq, Tsx.toGenerated?_primary_format]
      rfl
    · intro hfits offset capability hholds hcapability
      have hinline : block.isInlineScript options.inlineAttributes = true := by
        simp [Block.isInlineScript, hkind, hmode]
      rw [h.fileName] at hfits
      obtain ⟨place, byte, hplace, hbyte, hbyte'⟩ := Tsx.toGenerated?_primary_of_keeps hfits
        (Or.inr (Or.inl ⟨block, hmem, hinline, hholds⟩)) hcapability
      refine ⟨place, byte, ?_, by rwa [h.primary_eq], hbyte'⟩
      rw [hlocate offset _ hholds, h.primary_eq, hplace]
      rfl
  · intro hkind hmode hfits offset capability hstart hstop
    have hdropped : ∀ place, block.span.Holds place →
        ¬ (Tsx.Parts.of snapshot.text).Keeps snapshot.text options.inlineAttributes place :=
      fun place hholds => Tsx.Parts.not_keeps_of_mem_blocks hmem
        (by simp [Block.isInlineScript, hmode]) hholds
    rw [h.fileName] at hfits
    rw [h.locate?_of_no_file hblocks hkind (by simp [hmode])
        (by simp [Block.contains, Nat.le_of_lt hstart, Nat.le_of_lt hstop]), h.primary_eq,
      Tsx.toGenerated?_primary_eq_none hfits (hdropped offset ⟨by omega, hstop⟩)
        (hdropped (offset - 1) ⟨by omega, by omega⟩) (by omega)]
    rfl

end IsComponent

/-- **Every block is served by exactly one place.** -/
theorem serves_derive (fileName text : Text) (version : Nat) (clientVersion : Int)
    (inlineAttributes : List Text) (before after : List Block) (block : Block)
    (h : (derive fileName text version clientVersion
      (.ofInlineAttributes inlineAttributes)).blocks = before ++ block :: after) :
    (derive fileName text version clientVersion (.ofInlineAttributes inlineAttributes)).Serves
      inlineAttributes before block := by
  obtain ⟨hcomponent, -⟩ :=
    isComponent_ofInlineAttributes fileName text version clientVersion inlineAttributes
  exact hcomponent.serves h

/-- The inline script of the document. -/
def mixedBlock : Block where
  kind := .script
  content := ['y']
  span := ⟨47, 48⟩
  attributes := [(Block.inlineAttribute, Block.inlineAttribute)]
  container := ⟨29, 57⟩
  closed := true

set_option maxRecDepth 10000 in
theorem blocks_mixedDocument : (Tsx.Parts.of Tsx.mixedDocument).blocks = [mixedBlock] := by
  simp only [Tsx.Parts.of, Tree.parse_eq_ofMarkup, Tree.ofMarkup, Tsx.scan_mixedDocument]
  decide +kernel

theorem serves_derive_mixedDocument :
    mixedBlock.kind = .script ∧ mixedBlock.mode [Block.inlineAttribute] = .inline ∧
    Tsx.Fits [Block.inlineAttribute] Tsx.mixedDocument ['a'] ∧
    (derive ['a'] Tsx.mixedDocument 1 0 (.ofInlineAttributes [Block.inlineAttribute])).Serves
      [Block.inlineAttribute] [] mixedBlock := by
  refine ⟨rfl, by decide, ⟨by decide, Tsx.addressable_code_mixedDocument⟩, ?_⟩
  refine serves_derive ['a'] Tsx.mixedDocument 1 0 [Block.inlineAttribute] [] [] mixedBlock ?_
  obtain ⟨hcomponent, htext⟩ :=
    isComponent_ofInlineAttributes ['a'] Tsx.mixedDocument 1 0 [Block.inlineAttribute]
  rw [hcomponent.blocks, htext]
  exact blocks_mixedDocument

end Snapshot

end ComponentServer
