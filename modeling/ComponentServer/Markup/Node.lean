import ComponentServer.Markup.Token

/-!
The markup tree. Offsets in it are offsets of the whole document, not of the markup alone.
-/

namespace ComponentServer.Markup

structure Element where
  tag : Text
  attributes : List Attribute
  span : Span
  /-- Where the opening tag ends, unless the input ended first. -/
  startTagEnd : Option Nat
  /-- Where the closing tag starts, if there is one. -/
  endTagStart : Option Nat
  closed : Bool
  selfClosing : Bool
deriving DecidableEq, Repr

namespace Element

/-- Components are capitalised or hold a dot. -/
def isComponent (element : Element) : Bool :=
  element.tag.contains '.' || element.tag.head?.any Char.isUpper

def isVoid (element : Element) : Bool := isVoidTag element.tag

def isRaw (element : Element) : Bool := isRawTag element.tag

/-- What stands between the tags; without a closing tag it runs to the end of the element. -/
def content? (element : Element) : Option Span :=
  element.startTagEnd.map fun start =>
    ⟨start, max (element.endTagStart.getD element.span.stop) start⟩

/-- Whether an offset lies behind the element's `<` and inside its opening tag. -/
def inStartTag (element : Element) (offset : Nat) : Bool :=
  decide (element.span.start < offset) &&
    match element.startTagEnd with
    | some stop => decide (offset < stop)
    | none => decide (offset ≤ element.span.stop)

/-- Whether an offset lies in the element, which covers its first byte in any case. -/
def covers (element : Element) (offset : Nat) : Bool :=
  decide (element.span.start ≤ offset) &&
    decide (offset < max element.span.stop (element.span.start + 1))

end Element

inductive Node where
  | text (span : Span)
  | comment (span : Span) (closed : Bool)
  | element (head : Element) (children : List Node)
deriving Repr

namespace Node

def span : Node → Span
  | text span => span
  | comment span _ => span
  | element head _ => head.span

def children : Node → List Node
  | element _ children => children
  | _ => []

end Node

/-- The markup of a document: the span it was read from and its outermost nodes. -/
structure Tree where
  span : Span
  children : List Node
deriving Repr

mutual

/-- A node and all nodes below it, parents first. -/
def Node.preorder : Node → List Node
  | .text span => [.text span]
  | .comment span closed => [.comment span closed]
  | .element head children => .element head children :: Node.preorderAll children

def Node.preorderAll : List Node → List Node
  | [] => []
  | node :: others => node.preorder ++ Node.preorderAll others

end

theorem Node.preorder_eq (node : Node) :
    node.preorder = node :: Node.preorderAll node.children := by
  cases node <;> simp [Node.preorder, Node.preorderAll, Node.children]

theorem Node.preorderAll_append (front back : List Node) :
    Node.preorderAll (front ++ back) = Node.preorderAll front ++ Node.preorderAll back := by
  induction front with
  | nil => rfl
  | cons node others ih =>
    rw [List.cons_append, Node.preorderAll, Node.preorderAll, ih, List.append_assoc]

/-- Walks through the nodes on a stack: the next one is taken off, and its children are put on. -/
def Node.walk : List Node → List Node
  | [] => []
  | node :: stack => node :: Node.walk (node.children ++ stack)
termination_by stack => (Node.preorderAll stack).length
decreasing_by
  rw [Node.preorderAll_append, Node.preorderAll, Node.preorder_eq, List.cons_append,
    List.length_cons]
  exact Nat.lt_succ_self _

/-- The walk goes through the nodes parents first. -/
theorem Node.walk_eq_preorderAll (stack : List Node) :
    Node.walk stack = Node.preorderAll stack := by
  fun_induction Node.walk stack with
  | case1 => rfl
  | case2 node stack ih =>
    rw [ih, Node.preorderAll_append, Node.preorderAll, Node.preorder_eq, List.cons_append]

mutual

/-- The innermost element at an offset, found by going down through the first child that covers
it. -/
def Node.elementAt? (offset : Nat) : Node → Option Element
  | .text _ => none
  | .comment _ _ => none
  | .element head children =>
    if head.covers offset then some ((Node.firstElementAt? offset children).getD head)
    else none

def Node.firstElementAt? (offset : Nat) : List Node → Option Element
  | [] => none
  | node :: others => (node.elementAt? offset).or (Node.firstElementAt? offset others)

end

namespace Tree

/-- All nodes in document order. -/
def nodes (tree : Tree) : List Node := Node.walk tree.children

theorem nodes_eq_preorderAll (tree : Tree) : tree.nodes = Node.preorderAll tree.children :=
  Node.walk_eq_preorderAll tree.children

theorem mem_nodes {tree : Tree} {node : Node} :
    node ∈ tree.nodes ↔ node ∈ Node.preorderAll tree.children := by
  rw [nodes_eq_preorderAll]

/-- All elements in document order. -/
def elements (tree : Tree) : List Element :=
  tree.nodes.filterMap fun
    | .element head _ => some head
    | _ => none

def elementAt? (tree : Tree) (offset : Nat) : Option Element :=
  Node.firstElementAt? offset tree.children

def nodeCount (tree : Tree) : Nat := tree.nodes.length

end Tree

end ComponentServer.Markup
