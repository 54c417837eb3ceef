import ComponentServer.Block
import ComponentServer.Frontmatter
import ComponentServer.Markup.Reader
import ComponentServer.SourceMap.Document
import ComponentServer.Tsx.ComponentName
import ComponentServer.Tsx.Output
import ComponentServer.Tsx.Piece

/-!
The built-in compiler. Its code is the frontmatter, then the inline scripts, then a function that
returns the markup.
-/

namespace ComponentServer.Tsx

open Markup SourceMap

/-- The line and column of a span's start, and its length if it stays on one line. -/
def locate (source : Text) (span : Span) : Location :=
  let region := source.regionOf span
  { line := region.start.line + 1
    column := region.start.column + 1
    length :=
      if region.start.line = region.stop.line then region.stop.column - region.start.column else 0 }

/-- The structure of a document. -/
structure Parts where
  frontmatter : Frontmatter
  tree : Tree
  blocks : List Block

def Parts.of (source : Text) : Parts :=
  let frontmatter := Frontmatter.scan source
  let tree := Tree.parse source (frontmatter.markupStart source.size)
  ⟨frontmatter, tree, Block.extract tree source⟩

namespace Parts

def frontmatterPieces (parts : Parts) (source : Text) : List Piece :=
  match parts.frontmatter.body? with
  | some body => [.copy source body, .made ['\n']]
  | none => []

def scriptPieces (parts : Parts) (inlineAttributes : List Text) : List Piece :=
  (parts.blocks.filter (·.isInlineScript inlineAttributes)).flatMap fun block =>
    [.copied block.span.start block.content, .made ['\n']]

/-- What stands in front of the markup. -/
def opening (fileName : Text) : Text :=
  "export default function ".toList ++ componentName fileName ++
    "__AstroComponent_(_props: Record<string, any>): any \x7b\nreturn <Fragment>\n".toList

/-- What stands behind the markup. -/
def ending : Text := "\n</Fragment>;\n\x7d\n".toList

def pieces (parts : Parts) (source fileName : Text) (inlineAttributes : List Text) : List Piece :=
  parts.frontmatterPieces source ++ parts.scriptPieces inlineAttributes ++
    [.made (opening fileName)] ++ Piece.ofNodes source parts.tree.children ++ [.made ending]

def frontmatterDiagnostics (parts : Parts) (source : Text) : List CompileDiagnostic :=
  match parts.frontmatter with
  | .opened fence _ =>
    [{ code := CompileDiagnostic.openFrontmatterCode
       severity := .error
       location := some (locate source fence.span)
       message := "Frontmatter is missing its closing `---`"
       hint := none }]
  | _ => []

def blockDiagnostics (parts : Parts) (source : Text) : List CompileDiagnostic :=
  (parts.blocks.filter (!·.closed)).map fun block =>
    { code := CompileDiagnostic.unclosedBlockCode
      severity := .warning
      location := some (locate source ⟨block.container.start, block.span.start⟩)
      message := "Unclosed <" ++ String.ofList block.kind.tag ++ "> element"
      hint := none }

end Parts

/-- Compiles a document. -/
def compile (inlineAttributes : List Text) (source fileName : Text) : Output :=
  let parts := Parts.of source
  let pieces := parts.pieces source fileName inlineAttributes
  let document : SourceMap.Document :=
    { version := 3
      sources := [fileName]
      mappings := SourceMap.encode (Piece.anchors source .zero pieces) }
  { code := Piece.code pieces
    map := document.render
    diagnostics := parts.frontmatterDiagnostics source ++ parts.blockDiagnostics source }

/-- The built-in compiler; it never fails. -/
def compiler (inlineAttributes : List Text) : Compiler := fun source fileName =>
  .ok (compile inlineAttributes source fileName)

end ComponentServer.Tsx
