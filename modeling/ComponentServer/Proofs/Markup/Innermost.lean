import ComponentServer.Proofs.Markup.Ancestry
import ComponentServer.Proofs.Text.Spans

/-!
# The element at an offset

The search for an element goes down through the first child that covers the offset and never turns
back. Children stand inside their parent and siblings one behind the other, so nothing is missed on
the way: what is found holds the offset and has no element below it that does. All other elements that
hold the offset are its ancestors.
-/

namespace ComponentServer.Markup

open Text

variable {text : Text} {offset : Nat}

/-! ### Nested or apart -/

/-- The nodes below a node. -/
def Node.underneath : Node → List Node
  | .element _ children => Node.preorderAll children
  | _ => []

/-- The nodes are the same, one is below the other, or they share no offset. -/
def Node.NestedOrApart (left right : Node) : Prop :=
  left = right ∨ left ∈ right.underneath ∨ right ∈ left.underneath ∨ left.span.Disjoint right.span

theorem Node.mem_underneath_iff {node inner : Node} :
    inner ∈ node.underneath ↔ node.Ancestor inner := by
  cases node with
  | text span => exact iff_of_false List.not_mem_nil not_ancestor_text
  | comment span closed => exact iff_of_false List.not_mem_nil not_ancestor_comment
  | element head children => rw [underneath, mem_preorderAll_iff, ancestor_element_iff]

theorem Node.NestedOrApart.symm {left right : Node} (h : left.NestedOrApart right) :
    right.NestedOrApart left := by
  rcases h with heq | hleft | hright | hapart
  · exact Or.inl heq.symm
  · exact Or.inr (Or.inr (Or.inl hleft))
  · exact Or.inr (Or.inl hright)
  · exact Or.inr (Or.inr (Or.inr hapart.symm))

/-- **Any two nodes of a tree are nested or apart.** -/
theorem Node.InOrder.nestedOrApart {nodes : List Node} {first last : Nat}
    (h : InOrder text first last nodes) :
    ∀ left ∈ Node.preorderAll nodes, ∀ right ∈ Node.preorderAll nodes, left.NestedOrApart right := by
  have hsymm : Std.Symm Node.NestedOrApart := ⟨fun _ _ => Node.NestedOrApart.symm⟩
  have hpairwise : (Node.preorderAll nodes).Pairwise Node.NestedOrApart := by
    refine h.pairwise_preorderAll.imp ?_
    rintro earlier later (hbelow | hbehind)
    · exact Or.inr (Or.inr (Or.inl (mem_underneath_iff.mpr hbelow)))
    · exact Or.inr (Or.inr (Or.inr (Or.inl hbehind)))
  have hself : ∀ node ∈ Node.preorderAll nodes, node.NestedOrApart node :=
    fun node _ => Or.inl rfl
  intro left hleft right hright
  exact hpairwise.forall_of_forall hself hleft hright

/-! ### The search -/

theorem Element.Placed.covers_iff {element : Element} (h : element.Placed text) :
    element.covers offset = true ↔ element.span.Holds offset := by
  have hlt := h.lt
  simp only [Element.covers, Span.Holds, Bool.and_eq_true, decide_eq_true_eq]
  omega

/-- Nothing is found in a node just where none of its elements holds the offset. -/
theorem Node.Placed.elementAt?_eq_none_iff {node : Node} (h : node.Placed text) :
    node.elementAt? offset = none ↔
      ∀ head children, Node.element head children ∈ node.preorder → ¬ head.span.Holds offset := by
  cases node with
  | text span => simp [elementAt?, preorder]
  | comment span closed => simp [elementAt?, preorder]
  | element head children =>
    rw [elementAt?, ite_eq_right_iff]
    constructor
    · intro hcovers inner below hmem hholds
      have hbounds := h.bounds_of_mem_preorder _ hmem
      simp only [Node.span] at hbounds
      have hhead : head.span.Holds offset := by
        simp only [Span.Holds] at hholds ⊢
        omega
      cases hcovers (h.1.covers_iff.mpr hhead)
    · intro hnone hcovers
      exact absurd (h.1.covers_iff.mp hcovers)
        (hnone head children (by rw [preorder]; exact List.mem_cons_self))

theorem Node.InOrder.firstElementAt?_eq_none_iff {nodes : List Node} {first last : Nat}
    (h : InOrder text first last nodes) :
    Node.firstElementAt? offset nodes = none ↔
      ∀ head children, Node.element head children ∈ Node.preorderAll nodes →
        ¬ head.span.Holds offset := by
  induction nodes generalizing first with
  | nil => simp [firstElementAt?, preorderAll]
  | cons node others ih =>
    obtain ⟨-, hnode, hothers⟩ := h
    rw [firstElementAt?, Option.or_eq_none_iff, hnode.elementAt?_eq_none_iff, ih hothers]
    simp only [preorderAll, List.mem_append, or_imp, forall_and]

mutual

theorem Node.Placed.elementAt?_eq_some_iff {found : Element} : ∀ {node : Node}, node.Placed text →
    (node.elementAt? offset = some found ↔
      ∃ children, Node.element found children ∈ node.preorder ∧ found.span.Holds offset ∧
        Node.firstElementAt? offset children = none)
  | .text span, _ => by simp [elementAt?, preorder]
  | .comment span closed, _ => by simp [elementAt?, preorder]
  | .element head children, h => by
    have hchildren := h.2.1
    constructor
    · intro hfound
      rw [elementAt?] at hfound
      split at hfound
      next hcovers =>
        rw [Option.some.injEq] at hfound
        rw [preorder]
        cases hbelow : Node.firstElementAt? offset children with
        | none =>
          rw [hbelow, Option.getD_none] at hfound
          subst hfound
          exact ⟨children, List.mem_cons_self, h.1.covers_iff.mp hcovers, hbelow⟩
        | some inner =>
          rw [hbelow, Option.getD_some] at hfound
          subst hfound
          obtain ⟨lower, hmem, hholds, hnone⟩ :=
            (InOrder.firstElementAt?_eq_some_iff hchildren).mp hbelow
          exact ⟨lower, List.mem_cons_of_mem _ hmem, hholds, hnone⟩
      next => cases hfound
    · rintro ⟨lower, hmem, hholds, hnone⟩
      have hbounds := h.bounds_of_mem_preorder _ hmem
      have hcovers : head.covers offset = true := by
        rw [h.1.covers_iff]
        simp only [Node.span, Span.Holds] at hbounds hholds ⊢
        omega
      rw [elementAt?, if_pos hcovers, Option.some.injEq]
      rw [preorder, List.mem_cons] at hmem
      rcases hmem with heq | hmem
      · obtain ⟨rfl, rfl⟩ := Node.element.inj heq
        rw [hnone, Option.getD_none]
      · rw [(InOrder.firstElementAt?_eq_some_iff hchildren).mpr ⟨lower, hmem, hholds, hnone⟩,
          Option.getD_some]

/-- **The search finds the innermost element**: one that holds the offset while none below it
does. -/
theorem Node.InOrder.firstElementAt?_eq_some_iff {found : Element} :
    ∀ {nodes : List Node} {first last : Nat}, InOrder text first last nodes →
    (Node.firstElementAt? offset nodes = some found ↔
      ∃ children, Node.element found children ∈ Node.preorderAll nodes ∧
        found.span.Holds offset ∧ Node.firstElementAt? offset children = none)
  | [], _, _, _ => by simp [firstElementAt?, preorderAll]
  | node :: others, _, _, ⟨_, hnode, hothers⟩ => by
    rw [firstElementAt?, Option.or_eq_some_iff, Placed.elementAt?_eq_some_iff hnode,
      InOrder.firstElementAt?_eq_some_iff hothers]
    simp only [preorderAll, List.mem_append]
    constructor
    · rintro (⟨children, hmem, hfound⟩ | ⟨-, children, hmem, hfound⟩)
      · exact ⟨children, Or.inl hmem, hfound⟩
      · exact ⟨children, Or.inr hmem, hfound⟩
    · rintro ⟨children, hmem | hmem, hholds, hnone⟩
      · exact Or.inl ⟨children, hmem, hholds, hnone⟩
      · -- An offset behind a node is in none of its elements.
        refine Or.inr ⟨hnode.elementAt?_eq_none_iff.mpr ?_, children, hmem, hholds, hnone⟩
        intro inner below hinner hheld
        have hstop := (hnode.bounds_of_mem_preorder _ hinner).2
        have hstart := (hothers.bounds_of_mem_preorderAll _ hmem).1
        simp only [Node.span, Span.Holds] at hstop hstart hheld hholds
        omega

end

/-! ### Parsed trees -/

theorem Tree.holds_of_elementAt? {start : Nat} {element : Element}
    (h : (Tree.parse text start).elementAt? offset = some element) :
    element ∈ (Tree.parse text start).elements ∧ element.span.Holds offset := by
  obtain ⟨children, hmem, hholds, -⟩ :=
    (Tree.inOrder_parse text start).firstElementAt?_eq_some_iff.mp h
  exact ⟨Tree.mem_elements_iff.mpr ⟨children, hmem⟩, hholds⟩

/-- An opening tag reaches from behind the `<` up to the content. A tag that the end of the input
cuts off reaches up to that end and includes it. -/
theorem Element.Placed.inStartTag_iff {element : Element} (h : element.Placed text) :
    element.inStartTag offset = true ↔
      element.span.start < offset ∧ (offset < element.inside.start ∨
        element.startTagEnd = none ∧ offset = size text) := by
  cases hinner : element.startTagEnd with
  | none =>
    have hstart : element.inside.start = element.span.stop := by
      simp [Element.inside, Element.content?, hinner]
    have hstop := (h.cutOff hinner).2
    simp only [Element.inStartTag, hinner, Bool.and_eq_true, decide_eq_true_eq, true_and]
    omega
  | some inner =>
    have hstart : element.inside.start = inner := by
      simp [Element.inside, Element.content?, hinner]
    simp [Element.inStartTag, hinner, hstart]

theorem Element.Placed.inStartTag_of_cutOff {element : Element} (h : element.Placed text)
    (hcut : element.startTagEnd = none) : element.inStartTag (size text) = true := by
  rw [h.inStartTag_iff]
  exact ⟨(h.cutOff hcut).2 ▸ h.lt, Or.inr ⟨hcut, rfl⟩⟩

/-- In front of the end of the input, the element whose opening tag holds the offset is found. -/
theorem Tree.elementAt?_of_inStartTag {start : Nat} {element : Element}
    (hmem : element ∈ (Tree.parse text start).elements) (hin : element.inStartTag offset = true)
    (hlt : offset < size text) : (Tree.parse text start).elementAt? offset = some element := by
  obtain ⟨children, hnode⟩ := Tree.mem_elements_iff.mp hmem
  have hinOrder := Tree.inOrder_parse text start
  obtain ⟨hplaced, hchildren, -⟩ := hinOrder.of_mem_preorderAll _ hnode
  obtain ⟨hstart, htag⟩ := hplaced.inStartTag_iff.mp hin
  have hinside : offset < element.inside.start := by
    rcases htag with htag | ⟨-, hend⟩
    · exact htag
    · omega
  have hle := hplaced.inside_le
  refine hinOrder.firstElementAt?_eq_some_iff.mpr ⟨children, hnode, ?_, ?_⟩
  · simp only [Span.Holds]
    omega
  · -- All that is below stands behind the opening tag.
    rw [hchildren.firstElementAt?_eq_none_iff]
    intro inner below hbelow hholds
    have hbehind := (hchildren.bounds_of_mem_preorderAll _ hbelow).1
    simp only [Node.span, Span.Holds] at hbehind hholds
    omega

/-- The element is in the tree, with these children, and holds the offset. -/
def Tree.HasAt (tree : Tree) (offset : Nat) (head : Element) (children : List Node) : Prop :=
  tree.Has (.element head children) ∧ head.span.Holds offset

/-- All elements at the offset lie around the one that the search finds. -/
theorem Tree.ancestor_of_elementAt? {start : Nat} {found : Element}
    (h : (Tree.parse text start).elementAt? offset = some found) :
    ∃ children, (Tree.parse text start).HasAt offset found children ∧
      ∀ head below, (Tree.parse text start).HasAt offset head below →
        Node.element head below = .element found children ∨
          (Node.element head below).Ancestor (.element found children) := by
  have hinOrder := Tree.inOrder_parse text start
  obtain ⟨children, hmem, hholds, hnone⟩ := hinOrder.firstElementAt?_eq_some_iff.mp h
  refine ⟨children, ⟨Tree.mem_preorderAll_iff.mp hmem, hholds⟩, ?_⟩
  rintro head below ⟨hhas, hheld⟩
  have hother := Tree.mem_preorderAll_iff.mpr hhas
  rcases hinOrder.nestedOrApart _ hother _ hmem with heq | hinner | houter | hapart
  · exact Or.inl heq
  · -- The search would have gone on to an element below the one that it found.
    have hchildren := (hinOrder.of_mem_preorderAll _ hmem).2.1
    exact absurd hheld (hchildren.firstElementAt?_eq_none_iff.mp hnone head below hinner)
  · exact Or.inr (Node.mem_underneath_iff.mp houter)
  · exact absurd hholds (hapart.apart offset hheld)

/-- **The element at an offset is the innermost one.** None is found just where no element of the tree
holds the offset, and one is found just if it holds the offset and all others that do are ancestors
of it. -/
theorem Tree.elementAt?_eq_innermost (text : Text) (start offset : Nat) :
    let tree := Tree.parse text start
    (tree.elementAt? offset = none ↔ ∀ head children, ¬ tree.HasAt offset head children) ∧
    ∀ found, tree.elementAt? offset = some found ↔
      ∃ children, tree.HasAt offset found children ∧
        ∀ head below, tree.HasAt offset head below →
          Node.element head below = .element found children ∨
            (Node.element head below).Ancestor (.element found children) := by
  intro tree
  have hnone : tree.elementAt? offset = none ↔
      ∀ head children, ¬ tree.HasAt offset head children := by
    rw [Tree.elementAt?, (Tree.inOrder_parse text start).firstElementAt?_eq_none_iff]
    simp only [Tree.HasAt, not_and, ← Tree.mem_preorderAll_iff, tree]
  refine ⟨hnone, fun found => ⟨Tree.ancestor_of_elementAt?, ?_⟩⟩
  rintro ⟨children, hhere, hall⟩
  cases hsearch : tree.elementAt? offset with
  | none => exact absurd hhere (hnone.mp hsearch found children)
  | some other =>
    -- Two innermost elements would be ancestors of each other.
    obtain ⟨below, hother, hothers⟩ := Tree.ancestor_of_elementAt? hsearch
    rcases hall other below hother with heq | habove
    · rw [(Node.element.inj heq).1]
    · rcases hothers found children hhere with heq | hbelow
      · rw [(Node.element.inj heq).1]
      · have hlt := (Tree.placed_of_has hother.1).bounds_of_ancestor habove
        have hlt' := (Tree.placed_of_has hhere.1).bounds_of_ancestor hbelow
        exact absurd hlt.1 (Nat.lt_asymm hlt'.1)

end ComponentServer.Markup
