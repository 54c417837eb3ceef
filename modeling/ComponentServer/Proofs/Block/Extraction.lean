import ComponentServer.Proofs.Block
import ComponentServer.Proofs.Markup.Ancestry
import ComponentServer.Proofs.Markup.Exchange

/-!
# Extraction is complete and exact

Every script and every style whose opening tag is complete gives one block, in document order, and
nothing else gives any. The block of an element records where the element and its content stand. What
the content holds is seen from the token that the block was read from: it goes on to the first closing
tag of its name, or to the end of the text, and no element stands inside it.
-/

namespace ComponentServer

open Text Markup

/-- The element is a script or a style, and its opening tag is complete. -/
def Markup.Element.embeds (element : Element) : Bool := element.isRaw && element.startTagEnd.isSome

namespace Block

/-- The block records the kind of the element, the element as its container, and what stands between
the tags as its content. -/
structure IsOf (element : Element) (block : Block) : Prop where
  kind : element.tag.equalsIgnoringCase block.kind.tag = true
  container : block.container = element.span
  opening : element.startTagEnd = some block.span.start
  closing : block.span.stop = element.endTagStart.getD element.span.stop
  closed : block.closed = element.closed

/-- The content is what the text has in the recorded place. The place is inside the container, and the
content does not hold the start of a closing tag of its kind. -/
structure Exact (text : Text) (block : Block) : Prop where
  content : StandsAt text block.span.start block.content
  stop_eq : block.span.stop = block.span.start + size block.content
  inside : block.container.start < block.span.start ∧ block.span.stop ≤ block.container.stop
  free : FreeOf (['<', '/'] ++ block.kind.tag) block.content
  unclosed : block.closed = false → block.span.stop = size text

/-- The blocks are those of the tree: the elements of the tree are listed in document order, the
blocks go with the scripts and styles among them one by one, and their containers follow each other. -/
structure Extraction (text : Text) (tree : Tree) (blocks : List Block) : Prop where
  listed : ∀ element, element ∈ tree.elements ↔ ∃ children, tree.Has (.element element children)
  ordered : tree.elements.Pairwise fun earlier later => earlier.span.start < later.span.start
  matched : List.Forall₂ IsOf (tree.elements.filter Element.embeds) blocks
  containers : blocks.Pairwise fun earlier later => earlier.container.stop ≤ later.container.start
  contents : ∀ block ∈ blocks, block.Exact text

variable {text : Text} {start : Nat}

/-! ### Elements and blocks -/

theorem isSome_ofElement? {element : Element} (hplaced : element.Placed text) :
    (ofElement? text element).isSome = element.embeds := by
  have hspan := congrArg Option.isSome (map_span_ofSlices? text element)
  rw [Option.isSome_map] at hspan
  rw [ofElement?_eq_ofSlices? hplaced, hspan, Element.embeds, Element.content?]
  cases element.isRaw with
  | false => rfl
  | true => rw [if_pos rfl, Option.isSome_map, Bool.true_and]

theorem isOf_of_ofElement? {element : Element} {block : Block} (hplaced : element.Placed text)
    (h : ofElement? text element = some block) : block.IsOf element := by
  simp only [ofElement?, Option.bind_eq_bind, Option.bind_eq_some_iff, Option.pure_def,
    Option.some.injEq] at h
  obtain ⟨kind, hkind, span, hspan, content, -, rfl⟩ := h
  refine ⟨?_, rfl, (hplaced.content hspan).1, ?_, rfl⟩
  · rw [kindOf?_eq_ofName?] at hkind
    exact equalsIgnoringCase_iff.mpr (BlockKind.lower_of_ofName? hkind).symm
  · obtain ⟨inner, hinner, rfl⟩ := Option.map_eq_some_iff.mp hspan
    have hstop := (hplaced.opening inner hinner).2.1
    cases houter : element.endTagStart with
    | none => exact Nat.max_eq_left hstop
    | some outer =>
      obtain ⟨-, -, -, inner', hinner', hle⟩ := hplaced.closing outer houter
      rw [hinner, Option.some.injEq] at hinner'
      exact Nat.max_eq_left (hinner' ▸ hle)

theorem forall₂_filterMap {α β : Type} {relation : α → β → Prop} {f : α → Option β} {keeps : α → Bool}
    {items : List α} (hkeeps : ∀ item ∈ items, (f item).isSome = keeps item)
    (h : ∀ item ∈ items, ∀ result, f item = some result → relation item result) :
    List.Forall₂ relation (items.filter keeps) (items.filterMap f) := by
  induction items with
  | nil => exact List.Forall₂.nil
  | cons item others ih =>
    have hothers := ih (fun other hother => hkeeps other (List.mem_cons_of_mem _ hother))
      fun other hother => h other (List.mem_cons_of_mem _ hother)
    have hhere := hkeeps item List.mem_cons_self
    cases hresult : f item with
    | none =>
      have hskip : keeps item = false := by rw [← hhere, hresult, Option.isSome_none]
      rw [List.filter_cons_of_neg (by simp [hskip]), List.filterMap_cons_none hresult]
      exact hothers
    | some result =>
      have hkeep : keeps item = true := by rw [← hhere, hresult, Option.isSome_some]
      rw [List.filter_cons_of_pos hkeep, List.filterMap_cons_some hresult]
      exact .cons (h item List.mem_cons_self result hresult) hothers

/-! ### Order -/

theorem pairwise_start_elements (text : Text) (start : Nat) :
    (Tree.parse text start).elements.Pairwise fun earlier later =>
      earlier.span.start < later.span.start := by
  have hinOrder := Tree.inOrder_parse text start
  rw [Tree.elements, Tree.nodes_eq_preorderAll, List.pairwise_filterMap]
  refine hinOrder.pairwise_preorderAll.imp_of_mem ?_
  intro earlier later hearlier _ hprecedes head hhead head' hhead'
  have hlt := hprecedes.lt (hinOrder.of_mem_preorderAll earlier hearlier)
  cases earlier with
  | text span => cases hhead
  | comment span closed => cases hhead
  | element first children =>
    cases later with
    | text span => cases hhead'
    | comment span closed => cases hhead'
    | element second children' =>
      cases hhead
      cases hhead'
      exact hlt

/-- Scripts and styles have no element inside, so one that comes later starts behind them. -/
theorem pairwise_container_extract (text : Text) (start : Nat) :
    (extract (Tree.parse text start) text).Pairwise fun earlier later =>
      earlier.container.stop ≤ later.container.start := by
  have hinOrder := Tree.inOrder_parse text start
  rw [extract_parse, extractSlices_eq_filterMap, List.pairwise_filterMap]
  refine hinOrder.pairwise_preorderAll.imp_of_mem ?_
  intro earlier later hearlier hlater hprecedes block hblock block' hblock'
  cases earlier with
  | text span => cases hblock
  | comment span closed => cases hblock
  | element first children =>
    cases later with
    | text span => cases hblock'
    | comment span closed => cases hblock'
    | element second children' =>
      obtain ⟨hfirst, -, hplain⟩ := hinOrder.of_mem_preorderAll _ hearlier
      have hsecond := (hinOrder.of_mem_preorderAll _ hlater).1
      rw [Node.block?, ← ofElement?_eq_ofSlices? hfirst] at hblock
      rw [Node.block?, ← ofElement?_eq_ofSlices? hsecond] at hblock'
      have hraw : first.isRaw = true := by
        have hembeds := isSome_ofElement? hfirst
        rw [hblock, Option.isSome_some, Element.embeds, eq_comm, Bool.and_eq_true] at hembeds
        exact hembeds.1
      rw [(isOf_of_ofElement? hfirst hblock).container, (isOf_of_ofElement? hsecond hblock').container]
      rcases hprecedes with hbelow | hbehind
      · obtain ⟨child, hchild, hbelow⟩ := Node.ancestor_element_iff.mp hbelow
        rcases hplain hraw with rfl | ⟨span, rfl⟩
        · cases hchild
        · rw [List.mem_singleton] at hchild
          subst hchild
          rcases hbelow with heq | hbelow
          · cases heq
          · cases hbelow
      · exact hbehind

/-! ### Contents -/

end Block

namespace Markup.Token

variable {text : Text} {start : Nat}

theorem plain_of_readRaw {tag : StartTag} {input content rest : Text} {close : Option Text}
    (h : readRaw tag input = (.raw tag content close, rest)) :
    FreeOf (['<', '/'] ++ tag.name) content ∧ (close = none → rest = []) := by
  unfold readRaw at h
  split at h
  next content' rest' hcut =>
    cases h
    exact ⟨freeOf_of_cutIgnoringCase? (by simp) hcut, nofun⟩
  next hcut =>
    cases h
    exact ⟨freeOf_iff.mpr hcut, fun _ => rfl⟩

theorem exact_of_block? {token : Token} {block : Block} (hread : token.ReadAt text start)
    (h : token.block? start = some block) : block.Exact text := by
  have hstands := hread.standsAt
  obtain ⟨before, c, following, htext, rfl, htoken⟩ := hread
  have hwell := wellRead_readNext c following
  have happend := readNext_append c following
  have hne := readNext_source_ne_nil c following
  rw [← htoken] at hwell happend hne
  cases token with
  | text run => cases h
  | comment whole closed => cases h
  | endTag whole name => cases h
  | startTag tag =>
    have hpos := size_pos_iff.mpr hne
    rw [block?] at h
    split at h
    next =>
      obtain ⟨kind, -, rfl⟩ := Option.map_eq_some_iff.mp h
      have hempty : StandsAt text (size before) (tag.text ++ []) := by simpa [source] using hstands
      refine ⟨hempty.right, rfl, ⟨?_, ?_⟩, ?_, ?_⟩
      · exact Nat.lt_add_of_pos_right hpos
      · simp
      · exact freeOf_iff.mpr rfl
      · simp
    next => cases h
  | raw tag content close =>
    obtain ⟨kind, hkind, rfl⟩ := Option.map_eq_some_iff.mp h
    have hpos := size_pos_iff.mpr hwell.2.1
    have hraw : readNext c following = (.raw tag content close, (readNext c following).2) :=
      Prod.ext htoken.symm rfl
    obtain ⟨-, -, -, hreadRaw, -⟩ := exists_of_readNext_eq_raw hraw
    obtain ⟨hfree, hend⟩ := plain_of_readRaw hreadRaw
    have hname : lower (['<', '/'] ++ tag.name) = lower (['<', '/'] ++ kind.tag) := by
      have hlower := BlockKind.lower_of_ofName? hkind
      simp only [lower, List.map_append] at hlower ⊢
      rw [hlower]
    refine ⟨hstands.left.right, rfl, ⟨?_, ?_⟩, hfree.congr hname, ?_⟩
    · exact Nat.lt_add_of_pos_right hpos
    · exact Nat.le_add_right _ _
    · intro hclosed
      have hclose : close = none := by simpa using hclosed
      subst hclose
      rw [hend rfl, List.append_nil] at happend
      rw [htext, ← happend]
      simp only [source, size_append, Option.getD_none, size_nil]
      omega

end Markup.Token

namespace Block

/-- Each block was read from a token of the text. -/
theorem exists_readAt_of_mem_extract {text : Text} {start : Nat} {block : Block}
    (h : block ∈ extract (Tree.parse text start) text) :
    ∃ token offset, Token.ReadAt text offset token ∧ token.block? offset = some block := by
  obtain ⟨before, markup, rfl, hblocks⟩ := exists_extract_eq_blocks text start
  rw [hblocks] at h
  obtain ⟨earlier, later, hsplit⟩ := List.append_of_mem h
  obtain ⟨front, token, back, hscan, -, hblock, -⟩ := Token.exists_of_blocks_eq hsplit
  obtain ⟨c, following, left, hmarkup, hread, -⟩ := Token.exists_of_scan_eq_append hscan
  refine ⟨token, _, ⟨before ++ front.flatMap Token.source, c, following, ?_, ?_, ?_⟩, hblock⟩
  · rw [hmarkup, List.append_assoc]
  · exact size_append _ _
  · rw [hread]

/-- **Extraction is complete and exact**, for every text and every start of the markup. -/
theorem extraction_parse (text : Text) (start : Nat) :
    Extraction text (Tree.parse text start) (extract (Tree.parse text start) text) where
  listed element := by
    simp only [Tree.mem_elements_iff, Tree.mem_preorderAll_iff]
  ordered := pairwise_start_elements text start
  matched := forall₂_filterMap
    (fun element hmem => isSome_ofElement? (Tree.placed_of_mem_elements hmem))
    fun element hmem block hblock => isOf_of_ofElement? (Tree.placed_of_mem_elements hmem) hblock
  containers := pairwise_container_extract text start
  contents block hmem := by
    obtain ⟨token, offset, hread, hblock⟩ := exists_readAt_of_mem_extract hmem
    exact Token.exact_of_block? hread hblock

end Block

end ComponentServer
