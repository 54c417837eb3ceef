import ComponentServer.Proofs.Markup.Innermost
import ComponentServer.Proofs.Snapshot.Served

/-!
# Where tags are not completed

Tags are not completed in the frontmatter, in the content of a block and in the opening tag of a
component. For the last of these only the element found at the offset is asked. In front of the end
of the text that is enough, since nothing stands below an opening tag. At the end itself no element
is found, although an opening tag that is cut off there includes it.
-/

namespace ComponentServer

open Text Markup

/-! ### Behind a tag that is cut off -/

theorem Frontmatter.le_markupStart_of_contains {frontmatter : Frontmatter} {offset length : Nat}
    (h : frontmatter.contains offset = true) (hlt : frontmatter.markupStart length < length) :
    offset ≤ frontmatter.markupStart length := by
  cases frontmatter with
  | absent => cases h
  | opened fence insertion => exact absurd hlt (Nat.lt_irrefl _)
  | closed first last =>
    simp only [contains, Bool.and_eq_true, decide_eq_true_eq] at h
    exact h.2

namespace Tsx.Parts

variable {text : Text} {element : Element} {block : Block} {offset : Nat}

theorem contains_frontmatter_eq_false (hmem : element ∈ (Parts.of text).tree.elements)
    (htag : element.inStartTag offset = true) :
    (Parts.of text).frontmatter.contains offset = false := by
  obtain ⟨children, hnode⟩ := Tree.mem_elements_iff.mp hmem
  have hbounds := (inOrder_tree text).bounds_of_mem_preorderAll _ hnode
  have hplaced := Tree.placed_of_mem_elements hmem
  have hlt := hplaced.lt
  have hbehind := (hplaced.inStartTag_iff.mp htag).1
  simp only [Node.span] at hbounds
  apply Bool.eq_false_of_not_eq_true
  intro hin
  have hfollowed : (Frontmatter.scan text).markupStart (size text) < size text := by omega
  have hle : offset ≤ (Frontmatter.scan text).markupStart (size text) :=
    Frontmatter.le_markupStart_of_contains hin hfollowed
  omega

/-- The content of a block and a tag that is cut off cannot both reach the end of the text: they
would be nested, but there is no element inside a block and nothing inside the tag. -/
theorem contains_block_eq_false (hmem : element ∈ (Parts.of text).tree.elements)
    (hcut : element.startTagEnd = none) (hblock : block ∈ (Parts.of text).blocks) :
    block.contains (size text) = false := by
  have hinOrder := inOrder_tree text
  obtain ⟨children, hnode⟩ := Tree.mem_elements_iff.mp hmem
  obtain ⟨head, hhead, hof⟩ := List.mem_filterMap.mp hblock
  obtain ⟨below, hbelow⟩ := Tree.mem_elements_iff.mp hhead
  obtain ⟨hplaced, hchildren, -⟩ := hinOrder.of_mem_preorderAll _ hnode
  obtain ⟨hheadPlaced, -, hplain⟩ := hinOrder.of_mem_preorderAll _ hbelow
  have hstop := (hplaced.cutOff hcut).2
  obtain ⟨hraw, hcontent⟩ : head.isRaw = true ∧ head.content? = some block.span := by
    have hspan := Block.map_span_ofSlices? text head
    rw [← Block.ofElement?_eq_ofSlices? hheadPlaced, hof, Option.map_some, eq_comm,
      Option.ite_none_right_eq_some] at hspan
    exact hspan
  obtain ⟨hopening, hinside, -⟩ := hheadPlaced.content hcontent
  apply Bool.eq_false_of_not_eq_true
  intro hin
  have hend : size text ≤ head.span.stop := by
    have hle := hheadPlaced.inside_le.2.2
    simp only [Block.contains, Bool.and_eq_true, decide_eq_true_eq] at hin
    rw [hinside] at hle
    omega
  rcases hinOrder.nestedOrApart _ hnode _ hbelow with heq | hin | hin | hapart
  · obtain ⟨rfl, -⟩ := Node.element.inj heq
    rw [hcut] at hopening
    cases hopening
  · rcases hplain hraw with rfl | ⟨span, rfl⟩
    · simp [Node.underneath, Node.preorderAll] at hin
    · simp [Node.underneath, Node.preorderAll, Node.preorder] at hin
  · have hnone : children = [] := by
      have hempty : element.inside = ⟨element.span.stop, element.span.stop⟩ := by
        simp [Element.inside, Element.content?, hcut]
      rw [hempty] at hchildren
      exact hchildren.eq_nil
    simp [Node.underneath, Node.preorderAll, hnone] at hin
  · have hlt := hplaced.lt
    have hlt' := hheadPlaced.lt
    have hle := hheadPlaced.stop.le_size
    simp only [Node.span, Span.Disjoint] at hapart
    omega

/-- The element at an offset is in the opening tag of a component wherever any element is, but not at
the end of a text that cuts the tag off. -/
theorem exists_elementAt?_iff :
    (∃ element, (Parts.of text).tree.elementAt? offset = some element ∧
      element.isComponent = true ∧ element.inStartTag offset = true) ↔
    (∃ element ∈ (Parts.of text).tree.elements,
      element.isComponent = true ∧ element.inStartTag offset = true) ∧
    ¬ (offset = size text ∧ ∃ element ∈ (Parts.of text).tree.elements,
      element.isComponent = true ∧ element.startTagEnd = none) := by
  constructor
  · rintro ⟨element, hfound, hcomponent, hin⟩
    obtain ⟨hmem, hholds⟩ := Tree.holds_of_elementAt? hfound
    refine ⟨⟨element, hmem, hcomponent, hin⟩, ?_⟩
    rintro ⟨rfl, -⟩
    have hle := (Tree.placed_of_mem_elements hmem).stop.le_size
    exact absurd hholds.2 (Nat.not_lt.mpr hle)
  · rintro ⟨⟨element, hmem, hcomponent, hin⟩, hnot⟩
    have hplaced := Tree.placed_of_mem_elements hmem
    -- A tag that holds the offset reaches behind it, or else it is cut off there.
    have hlt : offset < size text := by
      have hle := hplaced.inside_le
      have hstop := hplaced.stop.le_size
      rcases (hplaced.inStartTag_iff.mp hin).2 with hinside | ⟨hcut, hend⟩
      · omega
      · exact absurd ⟨hend, element, hmem, hcomponent, hcut⟩ hnot
    exact ⟨element, Tree.elementAt?_of_inStartTag hmem hin hlt, hcomponent, hin⟩

end Tsx.Parts

/-! ### Zones -/

namespace Snapshot

/-- The offset lies in the frontmatter, in the content of a block or in the opening tag of a
component. -/
def Excludes (snapshot : Snapshot) (offset : Nat) : Prop :=
  snapshot.frontmatter.contains offset = true ∨
  (∃ block ∈ snapshot.blocks, block.contains offset = true) ∨
  ∃ element ∈ snapshot.tree.elements,
    element.isComponent = true ∧ element.inStartTag offset = true

/-- The offset is the end of the text, which cuts off the opening tag of a component. -/
def AtCutOffTag (snapshot : Snapshot) (offset : Nat) : Prop :=
  offset = size snapshot.text ∧
    ∃ element ∈ snapshot.tree.elements, element.isComponent = true ∧ element.startTagEnd = none

theorem allowsMarkup_eq_false {snapshot : Snapshot} (h : snapshot.language = .component)
    (offset : Nat) :
    snapshot.allowsMarkup offset = false ↔
      snapshot.frontmatter.contains offset = true ∨
      (∃ block ∈ snapshot.blocks, block.contains offset = true) ∨
      ∃ element, snapshot.tree.elementAt? offset = some element ∧
        element.isComponent = true ∧ element.inStartTag offset = true := by
  have hblocks : (snapshot.blockAt? offset).isNone = false ↔
      ∃ block ∈ snapshot.blocks, block.contains offset = true := by
    rw [blockAt?, ← Bool.not_eq_true, Option.isNone_iff_eq_none, ← ne_eq,
      ← Option.isSome_iff_ne_none, List.find?_isSome]
  have helement : ((snapshot.tree.elementAt? offset).any fun element =>
      element.isComponent && element.inStartTag offset) = true ↔
      ∃ element, snapshot.tree.elementAt? offset = some element ∧
        element.isComponent = true ∧ element.inStartTag offset = true := by
    simp [Option.any_eq_true]
  rw [← hblocks, ← helement]
  simp only [allowsMarkup, h, beq_self_eq_true, Bool.true_and, Bool.and_eq_false_iff,
    Bool.not_eq_false', or_assoc]

variable {fileName text : Text} {version : Nat} {clientVersion : Int} {language : Language}

/-- **Tags are completed outside all zones, and at a component tag that is cut off.** In a snapshot
of a component, completion is refused at the offsets of the zones, except for the end of a text that
ends in the opening tag of a component: that offset is in a zone and completion is allowed there. -/
theorem allowsMarkup_eq_false_iff (h : language.kindOf fileName = .component) (offset : Nat) :
    let snapshot := derive fileName text version clientVersion language
    (snapshot.allowsMarkup offset = false ↔
      snapshot.Excludes offset ∧ ¬ snapshot.AtCutOffTag offset) ∧
    (snapshot.AtCutOffTag offset → snapshot.Excludes offset) := by
  intro snapshot
  have hsnapshot : snapshot = _ := derive_eq (by simp [Language.integration?, h])
  rw [hsnapshot, allowsMarkup_eq_false h, Excludes, AtCutOffTag]
  simp only [Tsx.Parts.exists_elementAt?_iff]
  constructor
  · constructor
    · rintro (hfront | ⟨block, hblock, hin⟩ | ⟨hzone, hnot⟩)
      · refine ⟨Or.inl hfront, ?_⟩
        rintro ⟨rfl, element, hmem, -, hcut⟩
        have hin := (Tree.placed_of_mem_elements hmem).inStartTag_of_cutOff hcut
        rw [Tsx.Parts.contains_frontmatter_eq_false hmem hin] at hfront
        cases hfront
      · refine ⟨Or.inr (Or.inl ⟨block, hblock, hin⟩), ?_⟩
        rintro ⟨rfl, element, hmem, -, hcut⟩
        rw [Tsx.Parts.contains_block_eq_false hmem hcut hblock] at hin
        cases hin
      · exact ⟨Or.inr (Or.inr hzone), hnot⟩
    · rintro ⟨hfront | hblock | hzone, hnot⟩
      · exact Or.inl hfront
      · exact Or.inr (Or.inl hblock)
      · exact Or.inr (Or.inr ⟨hzone, hnot⟩)
  · rintro ⟨rfl, element, hmem, hcomponent, hcut⟩
    have hin := (Tree.placed_of_mem_elements hmem).inStartTag_of_cutOff hcut
    exact Or.inr (Or.inr ⟨element, hmem, hcomponent, hin⟩)

/-- A component whose opening tag is still being typed. -/
def cutOffDocument : Text := "<Card ".toList

def cutOffCard : Element := ⟨"Card".toList, [], ⟨0, 6⟩, none, none, false, false⟩

theorem parts_cutOffDocument :
    Tsx.Parts.of cutOffDocument = ⟨.absent, ⟨⟨0, 6⟩, [.element cutOffCard []]⟩, []⟩ := by
  have hscan : Token.scan (dropBytes (floorBoundary cutOffDocument
      ((Frontmatter.scan cutOffDocument).markupStart (size cutOffDocument))) cutOffDocument) =
      [.startTag ⟨cutOffDocument, "Card".toList, [], .inputEnd⟩] := by
    cbv
  simp only [Tsx.Parts.of, Tree.parse_eq_ofMarkup, Tree.ofMarkup, hscan, Block.extract, Tree.elements,
    Tree.nodes_eq_preorderAll]
  rfl

theorem allowsMarkup_eq_false_iff_cutOffDocument :
    let snapshot := derive ['a'] cutOffDocument 1 0 .standard
    Language.standard.kindOf ['a'] = .component ∧
    (snapshot.allowsMarkup 5 = false ↔ snapshot.Excludes 5 ∧ ¬ snapshot.AtCutOffTag 5) ∧
    (snapshot.AtCutOffTag 5 → snapshot.Excludes 5) := by
  have hkind : Language.standard.kindOf ['a'] = .component := rfl
  exact ⟨hkind, allowsMarkup_eq_false_iff hkind 5⟩

/-- The end of the text is in the opening tag, and yet completion is allowed there. -/
theorem allowsMarkup_cutOffDocument :
    let snapshot := derive ['a'] cutOffDocument 1 0 .standard
    snapshot.Excludes (size snapshot.text) ∧ snapshot.allowsMarkup (size snapshot.text) = true := by
  intro snapshot
  have hsnapshot : snapshot = _ := derive_eq rfl
  rw [hsnapshot, parts_cutOffDocument]
  have hmem : cutOffCard ∈ (Tree.mk ⟨0, 6⟩ [.element cutOffCard []]).elements :=
    Tree.mem_elements_iff.mpr ⟨[], List.mem_cons_self⟩
  refine ⟨Or.inr (Or.inr ⟨cutOffCard, hmem, ?_⟩), ?_⟩
  · decide
  · rfl

end Snapshot

end ComponentServer
