import ComponentServer.Block
import ComponentServer.Mapping.Recovery
import ComponentServer.SourceMap.Document
import ComponentServer.Virtual.File

/-!
Generating the virtual files of a document. A compiler that fails, or whose source map cannot be
read, leaves an empty primary file and one diagnostic.
-/

namespace ComponentServer.Virtual

/-- What virtual files depend on besides the document. -/
structure Options where
  fileName : Text
  version : Nat
  inlineAttributes : List Text
  /-- Declarations that follow the compiled code. -/
  ambientDeclarations : Text

/-- Passes over white space and comments; a comment that does not end takes all. -/
def skipTrivia (code : Text) : Text :=
  match _h : code.trimStart with
  | '/' :: '/' :: rest => skipTrivia (rest.dropWhile (· != '\n'))
  | '/' :: '*' :: rest =>
    match _hc : Text.cut? ['*', '/'] rest with
    | some (_, following) => skipTrivia (following.drop 2)
    | none => []
  | trimmed => trimmed
termination_by code.length
decreasing_by
  · have htrim := (List.dropWhile_suffix isBlank (l := code)).length_le
    have hdrop := (List.dropWhile_suffix (fun c => c != '\n') (l := rest)).length_le
    have heq := congrArg List.length _h
    simp only [Text.trimStart, List.length_cons] at heq
    omega
  · have htrim := (List.dropWhile_suffix isBlank (l := code)).length_le
    have hcut := Text.length_cutWhere?_le _hc
    have heq := congrArg List.length _h
    simp only [Text.trimStart, List.length_cons] at heq
    simp only [List.length_drop]
    omega

/-- The offset of the first statement of some code. -/
def firstStatement (code : Text) : Nat := code.size - (skipTrivia code).size

/-- Code followed by declarations, which start on a line of their own. -/
def withAmbient (code ambient : Text) : Text :=
  if ambient.isEmpty then code
  else if code.isEmpty || code.getLast? == some '\n' then code ++ ambient
  else code ++ '\n' :: ambient

/-- The file of the whole document; its first statement is tied to the start of the document. -/
def primaryFile (options : Options) (code : Text) (segments : List Segment) : VirtualFile where
  name := options.fileName ++ ".tsx".toList
  kind := .primary
  text := withAmbient code options.ambientDeclarations
  version := options.version
  mapping := .ofSegments (segments ++ [.anchor (firstStatement code)])

/-- Why a document has no primary code. -/
inductive Failure where
  | compiler (failure : CompileFailure)
  | sourceMap (error : SourceMap.Error)

def Failure.message : Failure → String
  | compiler failure => failure.message
  | sourceMap error => error.message

/-- The primary file and the compiler's diagnostics. -/
def compilePrimary (compiler : Compiler) (text : Text) (options : Options) :
    Except Failure (VirtualFile × List CompileDiagnostic) := do
  let output ← (compiler text options.fileName).mapError .compiler
  let mappings ← (SourceMap.parse output.map).mapError .sourceMap
  let segments := Recovery.segments text output.code mappings
  return (primaryFile options output.code segments, output.diagnostics)

/-- The file of a block's content alone. -/
def blockFile (options : Options) (name : Text) (kind : VirtualKind) (block : Block) :
    VirtualFile where
  name := options.fileName ++ name
  kind := kind
  text := block.content
  version := options.version
  mapping := .identity block.span .all

/-- One file per module script, numbered among all scripts. -/
def satellites (options : Options) (blocks : List Block) : List VirtualFile :=
  ((blocks.filter (·.kind == .script)).zipIdx.filter fun entry =>
    entry.1.mode options.inlineAttributes == .module).map fun entry =>
      blockFile options (".__script_".toList ++ Text.ofNat entry.2 ++ ".mts".toList)
        (.script entry.2) entry.1

/-- One file per style. -/
def styles (options : Options) (blocks : List Block) : List VirtualFile :=
  (blocks.filter (·.kind == .style)).zipIdx.map fun entry =>
    blockFile options
      (".__style_".toList ++ Text.ofNat entry.2 ++ ['.'] ++ entry.1.language?.getD "css".toList)
      (.style entry.2) entry.1

def generate (compiler : Compiler) (text : Text) (blocks : List Block) (options : Options) :
    Generated :=
  let primary :=
    match compilePrimary compiler text options with
    | .ok primary => primary
    | .error failure =>
      (primaryFile options [] [], [CompileDiagnostic.internalError failure.message])
  { primary := primary.1
    satellites := satellites options blocks
    styles := styles options blocks
    diagnostics := primary.2 }

end ComponentServer.Virtual
