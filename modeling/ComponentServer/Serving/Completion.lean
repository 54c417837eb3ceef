import ComponentServer.Serving.Checker
import ComponentServer.Snapshot
import ComponentServer.Text.LineScan
import ComponentServer.Text.Word

/-!
Completions. In code the checker answers; behind the `<` of a tag the components that the
frontmatter imports are offered.
-/

namespace ComponentServer

structure Completion where
  label : Text
  kind : CompletionKind
  detail : Option Text
  /-- The stretch that the label takes the place of. -/
  region : Option Region
deriving DecidableEq, Repr

namespace Completion

/-- A checker's completion; a stretch without a place in the document is left out. -/
def ofChecker (text : Text) (file : VirtualFile) (completion : CheckerCompletion) : Completion where
  label := completion.label
  kind := completion.kind
  detail := completion.detail
  region := (completion.replace.bind (file.mapping.spanAcross? .generated (some .completion))).map
    text.regionOf

/-- A character that the name of a tag may hold while it is typed. -/
def inTagName (c : Char) : Bool :=
  c.isAlphanum || c == '_' || c == '.' || c == '-' || c == '$'

/-- The offset of the `<` of the tag whose name ends at `offset`. -/
def tagStart? (text : Text) (offset : Nat) : Option Nat :=
  let reversed := (text.takeBytes offset).reverse
  match reversed.dropWhile inTagName with
  | '<' :: earlier => some (Text.size earlier)
  | _ => none

/-- Reads an import of a capitalised name, alone or in front of a comma. -/
def readImport (text : Text) : Option (Text × Text) := do
  let rest ← Text.after? "import".toList (text.dropWhile isBlank)
  match rest, rest.dropWhile isBlank with
  | b :: _, c :: others =>
    if !(isBlank b && c.isUpper) then none
    let inName := fun d : Char => d.isAlphanum || d == '_' || d == '$'
    let name := c :: others.takeWhile inName
    let behind := others.dropWhile inName
    match behind.dropWhile isBlank with
    | ',' :: left => return (name, left)
    | next =>
      if !(behind.head?.any isBlank) then none
      let left ← Text.after? "from".toList next
      if left.head?.any isWord then none
      return (name, left)
  | _, _ => none

/-- Puts names in order and keeps one of each. -/
def distinct (names : List Text) : List Text :=
  (names.foldl (fun table name => table.insert name ()) (Table.empty : Table Unit)).keys

/-- The names of the components that the frontmatter imports. -/
def importedComponents (snapshot : Snapshot) : List Text :=
  match snapshot.frontmatter.body? with
  | some body => distinct (Text.scanLines readImport (snapshot.text.slice body))
  | none => []

/-- The imported components, where the name of a tag is being typed. -/
def components? (snapshot : Snapshot) (offset : Nat) : Option (List Completion) := do
  let start ← tagStart? snapshot.text offset
  if !snapshot.allowsMarkup start then none
  match importedComponents snapshot with
  | [] => none
  | names => return names.map fun name => ⟨name, .className, some "Component".toList, none⟩

/-- The checker's completions, where it has any. -/
def checked? {σ : Type} (snapshot : Snapshot) (checker : Checker σ) (offset : Nat) :
    Option (List Completion) := do
  let (file, place) ← snapshot.locate? offset .completion
  if !file.kind.isChecked then none
  match checker.completions file place with
  | [] => none
  | completions => return completions.map (ofChecker snapshot.text file)

end Completion

def completionsAt? {σ : Type} (snapshot : Snapshot) (checker : Checker σ) (position : Position) :
    Option (List Completion) := do
  let offset ← snapshot.text.offsetAt? position
  (Completion.checked? snapshot checker offset).or (Completion.components? snapshot offset)

end ComponentServer
