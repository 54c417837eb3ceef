import ComponentServer.Text.Position

/-!
The frontmatter of a document: the code between its first two `---` fences. Scanning never fails and
looks at nothing but the fences.
-/

namespace ComponentServer

/-- One fence, with the editor position of both edges. -/
structure Fence where
  start : Nat
  stop : Nat
  startPosition : Position
  stopPosition : Position
deriving DecidableEq, Repr

namespace Fence

/-- The three characters of a fence. -/
def mark : Text := ['-', '-', '-']

/-- The fence that follows the text `before`. -/
def after (before : Text) : Fence where
  start := before.size
  stop := (before ++ mark).size
  startPosition := before.endPosition
  stopPosition := (before ++ mark).endPosition

def span (fence : Fence) : Span := ⟨fence.start, fence.stop⟩

end Fence

inductive Frontmatter where
  /-- The document has no fence. -/
  | absent
  /-- One fence; a second one could stand at offset `insertion`, the end of the document. -/
  | opened (fence : Fence) (insertion : Nat)
  | closed (first last : Fence)
deriving DecidableEq, Repr

namespace Frontmatter

/-- The first two fences, wherever they stand. -/
def scan (text : Text) : Frontmatter :=
  match Text.cut? Fence.mark text with
  | none => .absent
  | some (before, rest) =>
    let first := Fence.after before
    match Text.cut? Fence.mark (rest.drop Fence.mark.length) with
    | none => .opened first text.size
    | some (body, _) => .closed first (Fence.after (before ++ Fence.mark ++ body))

def isAbsent : Frontmatter → Bool
  | absent => true
  | _ => false

def isClosed : Frontmatter → Bool
  | closed .. => true
  | _ => false

/-- The code between the fences; without a second fence it runs to the end of the document. -/
def body? : Frontmatter → Option Span
  | absent => none
  | opened fence insertion => some ⟨fence.stop, insertion⟩
  | closed first last => some ⟨first.stop, last.start⟩

/-- Where the markup of a document of `size` bytes begins. -/
def markupStart (size : Nat) : Frontmatter → Nat
  | absent => 0
  | opened .. => size
  | closed _ last => last.stop

/-- Whether an offset lies in the frontmatter, its fences included. -/
def contains (offset : Nat) : Frontmatter → Bool
  | absent => false
  | opened fence _ => decide (fence.start ≤ offset)
  | closed first last => decide (first.start ≤ offset) && decide (offset ≤ last.stop)

end Frontmatter

end ComponentServer
