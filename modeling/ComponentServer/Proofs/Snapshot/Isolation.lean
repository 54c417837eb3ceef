import ComponentServer.Proofs.Markup.Exchange
import ComponentServer.Proofs.Snapshot.Served
import ComponentServer.Proofs.Tsx.Emitted

/-!
# Nothing leaks out of a block

The content of a module script, a data script or a style can be exchanged for anything that does not
close the block: the code of the document and the files of all other blocks stay as they are. The two
documents are read by the same tokens, with the content in the one token that holds it, and what is
made of the tokens mentions neither that content nor any offset.
-/

namespace ComponentServer

open Text Markup

/-! ### Blocks -/

namespace Block

/-- The opening tag of a block of the text, read behind its `<`. -/
def openingTag (text : Text) (block : Block) : StartTag :=
  (StartTag.read (dropBytes block.container.start text).tail).1

/-- The lists are the same blocks, perhaps in other places. -/
def Alike (left right : List Block) : Prop := left.map unplaced = right.map unplaced

theorem Alike.flatMap_eq {α : Type} {left right : List Block} (h : Alike left right)
    {f : Block → List α} (hf : ∀ block, f block.unplaced = f block) :
    left.flatMap f = right.flatMap f := by
  have hunplaced : ∀ blocks : List Block, (blocks.map unplaced).flatMap f = blocks.flatMap f := by
    intro blocks
    simp [List.flatMap_map, hf]
  rw [← hunplaced, h, hunplaced]

theorem Alike.filter {left right : List Block} (h : Alike left right) (kind : BlockKind) :
    Alike (left.filter (·.kind == kind)) (right.filter (·.kind == kind)) := by
  have hunplaced : ∀ blocks : List Block, (blocks.filter (·.kind == kind)).map unplaced =
      (blocks.map unplaced).filter (·.kind == kind) := by
    intro blocks
    rw [List.filter_map]
    rfl
  rw [Alike, hunplaced, h, hunplaced]

theorem Alike.filterMap_zipIdx_eq {α : Type} {left right : List Block} (h : Alike left right)
    {f : Block × Nat → Option α} (hf : ∀ block index, f (block.unplaced, index) = f (block, index)) :
    left.zipIdx.filterMap f = right.zipIdx.filterMap f := by
  have hunplaced : ∀ blocks : List Block, (blocks.map unplaced).zipIdx.filterMap f =
      blocks.zipIdx.filterMap f := by
    intro blocks
    rw [List.zipIdx_map, List.filterMap_map]
    exact List.filterMap_congr fun entry _ => hf entry.1 entry.2
  rw [← hunplaced, h, hunplaced]

/-- The token of a block whose opening tag ends with its own `>`. -/
theorem exists_raw_of_blocks_eq {front markup : Text} {before after : List Block} {block : Block}
    (h : Token.blocks (size front) (Token.scan markup) = before ++ block :: after)
    (hends : (block.openingTag (front ++ markup)).ending = .bracket) :
    ∃ earlier tag close later,
      Token.scan markup = earlier ++ .raw tag block.content close :: later ∧
      tag.ending = .bracket ∧ BlockKind.ofName? tag.name = some block.kind ∧
      block.span = ⟨size (front ++ earlier.flatMap Token.source ++ tag.text),
        size (front ++ earlier.flatMap Token.source ++ tag.text ++ block.content)⟩ ∧
      ∀ other, Alike (Token.blocks (size front) (earlier ++ .raw tag other close :: later))
        (before ++ { block with content := other } :: after) := by
  obtain ⟨earlier, token, later, hscan, hbefore, hblock, hafter⟩ := Token.exists_of_blocks_eq h
  obtain ⟨c, following, left, hmarkup, hread, -⟩ := Token.exists_of_scan_eq_append hscan
  have hcomplete : token.Complete := Token.complete_of_mem_scan markup token (by simp [hscan])
  have hopening : ∀ tag, token.tag? = some tag →
      block.container.start = size front + size (earlier.flatMap Token.source) →
      tag.ending = .bracket := by
    intro tag htag hstart
    have hbehind : (dropBytes block.container.start (front ++ markup)).tail = following := by
      rw [hstart, hmarkup, ← size_append, ← List.append_assoc, dropBytes_append_size]
      rfl
    have hsame : tag = (StartTag.read following).1 := Token.eq_read_of_tag? (by rw [hread, htag])
    rwa [openingTag, hbehind, ← hsame] at hends
  cases token with
  | text run => cases hblock
  | comment whole closed => cases hblock
  | endTag whole name => cases hblock
  | startTag tag =>
    -- Such a tag would be followed by plain content.
    rw [Token.block?] at hblock
    split at hblock
    next hterminated =>
      obtain ⟨kind, hkind, rfl⟩ := Option.map_eq_some_iff.mp hblock
      have hself : tag.selfClosing = false := by
        rw [StartTag.selfClosing, hopening tag rfl rfl]
        rfl
      have hopens := hcomplete.2
      simp [StartTag.opensRaw, BlockKind.isRawTag_of_ofName? hkind, hterminated, hself] at hopens
    next => cases hblock
  | raw tag content close =>
    obtain ⟨kind, hkind, rfl⟩ := Option.map_eq_some_iff.mp hblock
    refine ⟨earlier, tag, close, later, hscan, hopening tag rfl rfl, hkind, ?_, ?_⟩
    · simp only [size_append]
    · intro other
      rw [Token.blocks_append, hbefore, Token.blocks, Token.block?, ofTag?, hkind, Option.map_some,
        Option.toList_some, List.singleton_append, ← hafter, Alike, List.map_append,
        List.map_append, List.map_cons, List.map_cons, Token.map_unplaced_blocks]
      rfl

end Block

/-! ### Files -/

/-- What a file shows, apart from offsets and versions. -/
def VirtualFile.face (file : VirtualFile) : Text × VirtualKind × Text :=
  (file.name, file.kind, file.text)

/-- The faces of all files but those of one kind. -/
def VirtualFile.facesExcept (hidden : VirtualKind) (files : List VirtualFile) :
    List (Text × VirtualKind × Text) :=
  (files.filter fun file => file.kind ≠ hidden).map face

namespace Virtual

variable {options : Options} {hidden : VirtualKind} {kind : BlockKind}

def faceOf? (options : Options) (hidden : VirtualKind) (entry : Block × Nat) :
    Option (Text × VirtualKind × Text) :=
  ((fileOf? options entry).filter fun file => file.kind ≠ hidden).map VirtualFile.face

theorem facesExcept_filesOf (blocks : List Block) :
    VirtualFile.facesExcept hidden (filesOf options blocks kind) =
      (blocks.filter (·.kind == kind)).zipIdx.filterMap (faceOf? options hidden) := by
  rw [VirtualFile.facesExcept, filesOf_eq_filterMap, List.filter_filterMap, List.map_filterMap]
  rfl

theorem faceOf?_eq (block : Block) (index : Nat) :
    faceOf? options hidden (block, index) =
      if (block.kind = .script → block.mode options.inlineAttributes = .module) ∧
        kindOf block.kind index ≠ hidden then some (fileOf options index block).face else none := by
  rw [faceOf?, fileOf?]
  by_cases hfile : block.kind = .script → block.mode options.inlineAttributes = .module
  · by_cases hkind : kindOf block.kind index = hidden
    · rw [if_pos hfile, if_neg fun h => h.2 hkind, Option.filter_some, kind_fileOf,
        if_neg (by simpa using hkind), Option.map_none]
    · rw [if_pos hfile, if_pos ⟨hfile, hkind⟩, Option.filter_some, kind_fileOf,
        if_pos (by simpa using hkind), Option.map_some]
  · rw [if_neg hfile, if_neg fun h => hfile h.1]
    rfl

theorem faceOf?_unplaced (block : Block) (index : Nat) :
    faceOf? options hidden (block.unplaced, index) = faceOf? options hidden (block, index) := by
  have hface : (fileOf options index block.unplaced).face = (fileOf options index block).face := by
    have hkind : block.unplaced.kind = block.kind := rfl
    rw [fileOf, fileOf, hkind]
    cases block.kind <;> rfl
  rw [faceOf?_eq, faceOf?_eq, hface]
  rfl

theorem faceOf?_eq_none {block : Block} {index : Nat} (h : kindOf block.kind index = hidden) :
    faceOf? options hidden (block, index) = none := by
  rw [faceOf?_eq, if_neg fun hseen => hseen.2 h]

theorem facesExcept_congr {left right : List Block} (h : Block.Alike left right) :
    VirtualFile.facesExcept hidden (filesOf options left kind) =
      VirtualFile.facesExcept hidden (filesOf options right kind) := by
  rw [facesExcept_filesOf, facesExcept_filesOf]
  exact (h.filter kind).filterMap_zipIdx_eq faceOf?_unplaced

/-- The content of a block cannot be seen from the files of the others. -/
theorem facesExcept_exchange (before after : List Block) (block : Block) (other : Text) :
    VirtualFile.facesExcept (kindOf block.kind (block.ordinal before))
        (filesOf options (before ++ { block with content := other } :: after) kind) =
      VirtualFile.facesExcept (kindOf block.kind (block.ordinal before))
        (filesOf options (before ++ block :: after) kind) := by
  rw [facesExcept_filesOf, facesExcept_filesOf]
  by_cases hkind : block.kind = kind
  · subst hkind
    have hhidden : ∀ content : Text,
        faceOf? options (kindOf block.kind (block.ordinal before))
          ({ block with content := content }, block.ordinal before) = none :=
      fun content => faceOf?_eq_none rfl
    rw [Block.ordinal] at hhidden ⊢
    simp only [List.filter_append, List.filter_cons, beq_self_eq_true, if_true, List.zipIdx_append,
      List.zipIdx_cons, List.filterMap_append, List.filterMap_cons, Nat.zero_add]
    rw [hhidden other, hhidden block.content]
  · simp [hkind]

end Virtual

/-! ### Documents -/

namespace Tsx.Parts

open Frontmatter (fenced)

theorem flatMap_scriptCode_exchange {inlineAttributes : List Text} {before after : List Block}
    {block : Block} (hinline : block.isInlineScript inlineAttributes = false) (other : Text) :
    (before ++ { block with content := other } :: after).flatMap (scriptCode inlineAttributes) =
      (before ++ block :: after).flatMap (scriptCode inlineAttributes) := by
  have hnothing : ∀ content : Text,
      scriptCode inlineAttributes { block with content := content } = [] :=
    fun content => if_neg (Bool.not_eq_true _ ▸ hinline)
  simp only [List.flatMap_append, List.flatMap_cons]
  rw [hnothing other, hnothing block.content]

/-- Exchanging the content of a block exchanges it in the blocks, and leaves no trace in the code. -/
theorem exchange {front content back : Text} {before after : List Block} {block : Block}
    (hblocks : (of (front ++ content ++ back)).blocks = before ++ block :: after)
    (hspan : block.span = ⟨size front, size (front ++ content)⟩)
    (hclosed : (Frontmatter.scan (front ++ content ++ back)).isClosed = true)
    (hends : (block.openingTag (front ++ content ++ back)).ending = .bracket)
    {other : Text} (hfree : FreeOf (['<', '/'] ++ block.kind.tag) other) :
    Block.Alike (of (front ++ other ++ back)).blocks
        (before ++ { block with content := other } :: after) ∧
      ∀ inlineAttributes fileName, block.isInlineScript inlineAttributes = false →
        (compile inlineAttributes (front ++ other ++ back) fileName).code =
          (compile inlineAttributes (front ++ content ++ back) fileName).code := by
  obtain ⟨start, body, markup, htext, hscan⟩ := Frontmatter.exists_of_isClosed hclosed
  rw [htext] at hblocks hends
  rw [of_fenced (hscan markup)] at hblocks
  obtain ⟨earlier, tag, close, later, htokens, hbracket, hkind, hplace, halike⟩ :=
    Block.exists_raw_of_blocks_eq hblocks hends
  -- The given cut of the document is the one that the token makes.
  have hmarkup : ∀ part, (earlier ++ .raw tag part close :: later).flatMap Token.source =
      earlier.flatMap Token.source ++ tag.text ++
        (part ++ (close.getD [] ++ later.flatMap Token.source)) := by
    intro part
    simp [Token.source]
  have hcut : front ++ (content ++ back) =
      (fenced start body ++ earlier.flatMap Token.source ++ tag.text) ++
        (block.content ++ (close.getD [] ++ later.flatMap Token.source)) := by
    rw [← List.append_assoc, htext, ← Token.flatMap_source_scan markup, htokens, hmarkup]
    simp
  rw [hspan, Span.mk.injEq] at hplace
  obtain ⟨hfront, hrest⟩ := append_inj_of_size hcut hplace.1
  obtain ⟨rfl, rfl⟩ : content = block.content ∧ back = _ := by
    refine append_inj_of_size hrest ?_
    have hstop := hplace.2
    rw [← hfront, size_append, size_append] at hstop
    omega
  have hother : front ++ other ++ (close.getD [] ++ later.flatMap Token.source) =
      fenced start body ++ (earlier ++ .raw tag other close :: later).flatMap Token.source := by
    rw [hfront, hmarkup]
    simp
  have hname : lower (['<', '/'] ++ block.kind.tag) = lower (['<', '/'] ++ tag.name) := by
    have hlower := BlockKind.lower_of_ofName? hkind
    simp only [lower, List.map_append] at hlower ⊢
    rw [hlower]
  have htokens' := Token.scan_exchange htokens hbracket (hfree.congr hname)
  have hscan' := hscan ((earlier ++ .raw tag other close :: later).flatMap Token.source)
  refine ⟨?_, fun inlineAttributes fileName hinline => ?_⟩
  · rw [hother, of_fenced hscan', htokens']
    exact halike other
  · rw [hother, code_compile_fenced fileName inlineAttributes hscan', htokens',
      (halike other).flatMap_eq (fun _ => rfl), flatMap_scriptCode_exchange hinline, ← hblocks,
      htext, code_compile_fenced fileName inlineAttributes (hscan markup), htokens,
      Token.codeAll_exchange [] earlier later tag other block.content close]

end Tsx.Parts

namespace Snapshot

variable {fileName text : Text} {version : Nat} {clientVersion : Int} {language : Language}

theorem integration?_eq_none_of_blocks_ne_nil
    (h : (derive fileName text version clientVersion language).blocks ≠ []) :
    language.integration? fileName = none := by
  unfold derive at h
  unfold Language.integration?
  cases hkind : language.kindOf fileName with
  | component => rfl
  | framework extension =>
    cases hfind : language.frameworks.find? extension with
    | none => exact hfind
    | some integration => simp [hkind, Language.generateFramework?, hfind] at h

/-- The snapshots show the same code and the same files, apart from the file of one block. The text
of the primary file is the code and the declarations behind it as long as lines and columns fit words
of 32 bits. -/
structure AgreesExcept (hidden : VirtualKind) (inlineAttributes : List Text)
    (left right : Snapshot) : Prop where
  code : (Tsx.compile inlineAttributes left.text left.fileName).code =
    (Tsx.compile inlineAttributes right.text right.fileName).code
  primary : Tsx.Fits inlineAttributes left.text left.fileName → Addressable right.text →
    left.primary.text = right.primary.text
  satellites : VirtualFile.facesExcept hidden left.generated.satellites =
    VirtualFile.facesExcept hidden right.generated.satellites
  styles : VirtualFile.facesExcept hidden left.generated.styles =
    VirtualFile.facesExcept hidden right.generated.styles

theorem IsComponent.text_primary {snapshot : Snapshot} {options : Virtual.Options}
    (h : snapshot.IsComponent options)
    (hfits : Tsx.Fits options.inlineAttributes snapshot.text snapshot.fileName) :
    snapshot.primary.text = Virtual.withAmbient
      (Tsx.compile options.inlineAttributes snapshot.text snapshot.fileName).code
      options.ambientDeclarations := by
  rw [h.fileName] at hfits ⊢
  obtain ⟨segments, hcompiled, -⟩ := Tsx.exists_compiled hfits
  rw [h.primary_eq, Tsx.primary, hcompiled]
  rfl

theorem IsComponent.agreesExcept {left right : Snapshot} {options : Virtual.Options}
    (hleft : left.IsComponent options) (hright : right.IsComponent options)
    {before after : List Block} {block : Block} {other : Text}
    (hblocks : right.blocks = before ++ block :: after)
    (halike : Block.Alike left.blocks (before ++ { block with content := other } :: after))
    (hcode : (Tsx.compile options.inlineAttributes left.text options.fileName).code =
      (Tsx.compile options.inlineAttributes right.text options.fileName).code) :
    AgreesExcept (Virtual.kindOf block.kind (block.ordinal before)) options.inlineAttributes left
      right := by
  have hfaces : ∀ kind : BlockKind,
      VirtualFile.facesExcept (Virtual.kindOf block.kind (block.ordinal before))
        (Virtual.filesOf options left.blocks kind) =
      VirtualFile.facesExcept (Virtual.kindOf block.kind (block.ordinal before))
        (Virtual.filesOf options right.blocks kind) := by
    intro kind
    rw [Virtual.facesExcept_congr halike, hblocks]
    exact Virtual.facesExcept_exchange before after block other
  refine ⟨?_, ?_, ?_, ?_⟩
  · rw [hleft.fileName, hright.fileName, hcode]
  · intro hfits hdocument
    have hfits' : Tsx.Fits options.inlineAttributes right.text right.fileName := by
      refine ⟨hdocument, ?_⟩
      rw [hright.fileName, ← hcode, ← hleft.fileName]
      exact hfits.code
    rw [hleft.text_primary hfits, hright.text_primary hfits', hleft.fileName, hright.fileName, hcode]
  · rw [hleft.satellites_eq, hright.satellites_eq]
    exact hfaces .script
  · rw [hleft.styles_eq, hright.styles_eq]
    exact hfaces .style

/-- **The content of a block that is not an inline script leaks nowhere.** -/
theorem agreesExcept_exchange (fileName front content back : Text) (version : Nat)
    (clientVersion : Int) (language : Language)
    (hcompiler : language.compiler = Tsx.compiler language.inlineAttributes)
    (before after : List Block) (block : Block)
    (hblocks : (derive fileName (front ++ content ++ back) version clientVersion language).blocks =
      before ++ block :: after)
    (hspan : block.span = ⟨size front, size (front ++ content)⟩)
    (hclosed : (Frontmatter.scan (front ++ content ++ back)).isClosed = true)
    (hends : (block.openingTag (front ++ content ++ back)).ending = .bracket)
    (hinline : block.isInlineScript language.inlineAttributes = false)
    (other : Text) (hfree : FreeOf (['<', '/'] ++ block.kind.tag) other) :
    AgreesExcept (Virtual.kindOf block.kind (block.ordinal before)) language.inlineAttributes
      (derive fileName (front ++ other ++ back) version clientVersion language)
      (derive fileName (front ++ content ++ back) version clientVersion language) := by
  have hnone := integration?_eq_none_of_blocks_ne_nil (by rw [hblocks]; simp)
  have hderive : ∀ text, (derive fileName text version clientVersion language).IsComponent
      (language.options fileName version) ∧
      (derive fileName text version clientVersion language).text = text :=
    fun text => isComponent_derive hcompiler hnone
  obtain ⟨hleft, hleftText⟩ := hderive (front ++ other ++ back)
  obtain ⟨hright, hrightText⟩ := hderive (front ++ content ++ back)
  have hparts := hright.blocks
  rw [hrightText, hblocks] at hparts
  obtain ⟨halike, hcode⟩ := Tsx.Parts.exchange hparts.symm hspan hclosed hends hfree
  rw [← hleftText, ← hleft.blocks] at halike
  refine hleft.agreesExcept hright hblocks halike ?_
  rw [hleftText, hrightText]
  exact hcode _ _ hinline

/-- A document with a style, up to its content. -/
def styleFront : Text := "---\n---<style>".toList

def styleBack : Text := "</style><p>".toList

def styleOther : Text := "</p><script>---".toList

def styleBlock : Block where
  kind := .style
  content := ['a']
  span := ⟨14, 15⟩
  attributes := []
  container := ⟨7, 23⟩
  closed := true

theorem blocks_styleDocument :
    (Tsx.Parts.of (styleFront ++ ['a'] ++ styleBack)).blocks = [styleBlock] := by
  have hscan : Token.scan "<style>a</style><p>".toList =
      [.raw ⟨"<style>".toList, styleTag, [], .bracket⟩ ['a'] (some "</style>".toList),
        .startTag ⟨"<p>".toList, ['p'], [], .bracket⟩] := by
    cbv
  have htext : styleFront ++ ['a'] ++ styleBack =
      Frontmatter.fenced [] ['\n'] ++ "<style>a</style><p>".toList := by decide
  rw [htext, Tsx.Parts.of_fenced (by decide), hscan]
  decide

theorem fits_styleOther :
    Tsx.Fits [Block.inlineAttribute] (styleFront ++ styleOther ++ styleBack) ['a'] := by
  have hscan : Token.scan "<style></p><script>---</style><p>".toList =
      [.raw ⟨"<style>".toList, styleTag, [], .bracket⟩ styleOther (some "</style>".toList),
        .startTag ⟨"<p>".toList, ['p'], [], .bracket⟩] := by
    cbv
  have htext : styleFront ++ styleOther ++ styleBack =
      Frontmatter.fenced [] ['\n'] ++ "<style></p><script>---</style><p>".toList := by decide
  refine ⟨by decide, ?_⟩
  rw [htext, Tsx.Parts.code_compile_fenced _ _ (by decide), hscan]
  decide +kernel

theorem agreesExcept_exchange_styleBlock :
    Tsx.Fits [Block.inlineAttribute] (styleFront ++ styleOther ++ styleBack) ['a'] ∧
    Addressable (styleFront ++ ['a'] ++ styleBack) ∧
    AgreesExcept (.style 0) [Block.inlineAttribute]
      (derive ['a'] (styleFront ++ styleOther ++ styleBack) 1 0 .standard)
      (derive ['a'] (styleFront ++ ['a'] ++ styleBack) 1 0 .standard) := by
  refine ⟨fits_styleOther, by decide, ?_⟩
  refine agreesExcept_exchange ['a'] styleFront ['a'] styleBack 1 0 .standard rfl [] [] styleBlock
    ?_ (by decide) (by decide) (by cbv) (by decide) styleOther (by decide)
  obtain ⟨hcomponent, htext⟩ := isComponent_ofInlineAttributes ['a']
    (styleFront ++ ['a'] ++ styleBack) 1 0 [Block.inlineAttribute]
  exact hcomponent.blocks.trans (by rw [htext, blocks_styleDocument]; rfl)

end Snapshot

end ComponentServer
