import ComponentServer.Proofs.Markup.Layout

/-!
# Ancestors and document order

A node is in a tree if it is an outermost node of it or has one as an ancestor. The list of nodes,
parents first, holds just these, and holds them from left to right: a node comes before all that is
below it, and before all that starts where it ends or later.
-/

namespace ComponentServer.Markup

open Text

variable {text : Text}

namespace Node

/-- The second node is below the first, as a child or further down. -/
inductive Ancestor : Node → Node → Prop
  | parent {head : Element} {children : List Node} {inner : Node} :
      inner ∈ children → Ancestor (.element head children) inner
  | above {head : Element} {children : List Node} {middle inner : Node} :
      middle ∈ children → Ancestor middle inner → Ancestor (.element head children) inner

theorem not_ancestor_text {span : Span} {inner : Node} :
    ¬ (Node.text span).Ancestor inner := by
  intro h
  cases h

theorem not_ancestor_comment {span : Span} {closed : Bool} {inner : Node} :
    ¬ (Node.comment span closed).Ancestor inner := by
  intro h
  cases h

theorem ancestor_element_iff {head : Element} {children : List Node} {inner : Node} :
    (Node.element head children).Ancestor inner ↔
      ∃ child ∈ children, inner = child ∨ child.Ancestor inner := by
  constructor
  · intro h
    cases h with
    | parent hmem => exact ⟨inner, hmem, Or.inl rfl⟩
    | above hmem hbelow => exact ⟨_, hmem, Or.inr hbelow⟩
  · rintro ⟨child, hmem, rfl | hbelow⟩
    · exact .parent hmem
    · exact .above hmem hbelow

mutual

theorem mem_preorder_iff {inner : Node} :
    ∀ {node : Node}, inner ∈ node.preorder ↔ inner = node ∨ node.Ancestor inner
  | .text span => by
    rw [preorder, List.mem_singleton, or_iff_left not_ancestor_text]
  | .comment span closed => by
    rw [preorder, List.mem_singleton, or_iff_left not_ancestor_comment]
  | .element head children => by
    rw [preorder, List.mem_cons, ancestor_element_iff, mem_preorderAll_iff]

theorem mem_preorderAll_iff {inner : Node} : ∀ {nodes : List Node},
    inner ∈ Node.preorderAll nodes ↔ ∃ node ∈ nodes, inner = node ∨ node.Ancestor inner
  | [] => by simp [preorderAll]
  | node :: others => by
    rw [preorderAll, List.mem_append, mem_preorder_iff, mem_preorderAll_iff, List.exists_mem_cons_iff]

end

theorem Placed.bounds_of_ancestor {outer inner : Node} (h : outer.Placed text)
    (hbelow : outer.Ancestor inner) :
    outer.span.start < inner.span.start ∧ inner.span.stop ≤ outer.span.stop := by
  cases outer with
  | text span => cases hbelow
  | comment span closed => cases hbelow
  | element head children =>
    have hmem := mem_preorderAll_iff.mpr (ancestor_element_iff.mp hbelow)
    have hbounds := h.2.1.bounds_of_mem_preorderAll inner hmem
    have hinside := h.1.inside_le
    change head.span.start < _ ∧ _ ≤ head.span.stop
    omega

/-- Parents come before their children, and siblings one behind the other. -/
def Precedes (earlier later : Node) : Prop :=
  earlier.Ancestor later ∨ earlier.span.stop ≤ later.span.start

theorem Precedes.lt {earlier later : Node} (h : earlier.Precedes later)
    (hplaced : earlier.Placed text) : earlier.span.start < later.span.start := by
  rcases h with hbelow | hbehind
  · exact (hplaced.bounds_of_ancestor hbelow).1
  · exact Nat.lt_of_lt_of_le hplaced.lt hbehind

mutual

theorem Placed.pairwise_preorder :
    ∀ {node : Node}, node.Placed text → node.preorder.Pairwise Precedes
  | .text span, _ => by
    rw [preorder]
    exact List.pairwise_singleton _ _
  | .comment span closed, _ => by
    rw [preorder]
    exact List.pairwise_singleton _ _
  | .element head children, h => by
    rw [preorder, List.pairwise_cons]
    refine ⟨?_, InOrder.pairwise_preorderAll h.2.1⟩
    intro later hlater
    exact Or.inl (ancestor_element_iff.mpr (mem_preorderAll_iff.mp hlater))

/-- **Nodes are listed in document order.** -/
theorem InOrder.pairwise_preorderAll : ∀ {nodes : List Node} {first last : Nat},
    InOrder text first last nodes → (Node.preorderAll nodes).Pairwise Precedes
  | [], _, _, _ => List.Pairwise.nil
  | node :: others, _, _, ⟨_, hnode, hothers⟩ => by
    rw [preorderAll, List.pairwise_append]
    refine ⟨Placed.pairwise_preorder hnode, InOrder.pairwise_preorderAll hothers, ?_⟩
    intro earlier hearlier later hlater
    have hstop := (hnode.bounds_of_mem_preorder earlier hearlier).2
    have hstart := (hothers.bounds_of_mem_preorderAll later hlater).1
    exact Or.inr (Nat.le_trans hstop hstart)

end

end Node

/-- The node is in the tree, at any depth. -/
def Tree.Has (tree : Tree) (node : Node) : Prop :=
  ∃ outermost ∈ tree.children, node = outermost ∨ outermost.Ancestor node

theorem Tree.mem_preorderAll_iff {tree : Tree} {node : Node} :
    node ∈ Node.preorderAll tree.children ↔ tree.Has node :=
  Node.mem_preorderAll_iff

theorem Tree.mem_nodes_iff {tree : Tree} {node : Node} : node ∈ tree.nodes ↔ tree.Has node :=
  Tree.mem_nodes.trans Tree.mem_preorderAll_iff

theorem Tree.placed_of_has {start : Nat} {node : Node} (h : (Tree.parse text start).Has node) :
    node.Placed text :=
  (Tree.inOrder_parse text start).of_mem_preorderAll node (Tree.mem_preorderAll_iff.mpr h)

end ComponentServer.Markup
