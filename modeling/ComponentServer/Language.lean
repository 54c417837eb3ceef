import ComponentServer.Path
import ComponentServer.Text.Table
import ComponentServer.Tsx.Compile
import ComponentServer.Virtual.Generate

/-!
Languages: which compiler a document goes through, which declarations surround its code, and which
file extensions belong to other component frameworks.
-/

namespace ComponentServer

/-- Makes checkable code of a framework's component, given its text and its class name. -/
abbrev Integration := Text → Text → Text

/-- A class that accepts any properties, for frameworks of which only the extension is known. -/
def Integration.anyProps : Integration := fun _ className =>
  "export default class ".toList ++ className ++
    " \x7b\n    constructor(_props: Record<string, any>) \x7b\x7d\n\x7d\n".toList

/-- Integrations by extension. -/
structure Frameworks where
  table : Table Integration

namespace Frameworks

def empty : Frameworks := ⟨.empty⟩

/-- Registers an integration; dots in front of the extension and its case do not count, and the
latest registration of an extension wins. -/
def register (frameworks : Frameworks) (extension : Text) (integration : Integration) :
    Frameworks :=
  ⟨frameworks.table.insert (Text.lower (extension.dropWhile (· == '.'))) integration⟩

/-- Serves every extension by a class that accepts any properties. -/
def ofExtensions (extensions : List Text) : Frameworks :=
  extensions.foldl (fun frameworks extension => frameworks.register extension .anyProps) .empty

def find? (frameworks : Frameworks) (extension : Text) : Option Integration :=
  frameworks.table.find? extension.lower

def extensions (frameworks : Frameworks) : List Text := frameworks.table.keys

end Frameworks

inductive LanguageKind where
  /-- Frontmatter, markup and embedded blocks. -/
  | component
  /-- A component of another framework. -/
  | framework (extension : Text)
deriving DecidableEq, Repr

structure Language where
  compiler : Compiler
  inlineAttributes : List Text
  ambientDeclarations : Text
  frameworks : Frameworks

namespace Language

/-- The globals that every component can use. -/
def builtinDeclarations : Text :=
  ("\ndeclare const Astro: Readonly<\x7b\n" ++
    "    props: Record<string, any>;\n" ++
    "    params: Record<string, string | undefined>;\n" ++
    "    request: Request;\n" ++
    "    url: URL;\n" ++
    "    site: URL | undefined;\n" ++
    "    generator: string;\n" ++
    "    cookies: any;\n" ++
    "    locals: Record<string, any>;\n" ++
    "    slots: Record<string, any> & \x7b\n" ++
    "        has(name: string): boolean;\n" ++
    "        render(name: string, args?: any[]): Promise<string>;\n" ++
    "    \x7d;\n" ++
    "    redirect(path: string, status?: number): Response;\n" ++
    "    self: (props: Record<string, any>) => any;\n" ++
    "\x7d>;\n" ++
    "declare const Fragment: any;\n" ++
    "declare namespace JSX \x7b\n" ++
    "    type Element = any;\n" ++
    "    interface IntrinsicElements \x7b\n" ++
    "        [name: string]: Record<string, any>;\n" ++
    "    \x7d\n" ++
    "\x7d\n").toList

/-- The built-in compiler with the given inline attributes. -/
def ofInlineAttributes (inlineAttributes : List Text) : Language where
  compiler := Tsx.compiler inlineAttributes
  inlineAttributes := inlineAttributes
  ambientDeclarations := builtinDeclarations
  frameworks := .empty

def standard : Language := ofInlineAttributes [Block.inlineAttribute]

/-- Adds declarations behind those that are there, on a line of their own. -/
def withDeclarations (language : Language) (declarations : Text) : Language :=
  if declarations.isEmpty then language
  else
    let ambient := language.ambientDeclarations
    { language with
      ambientDeclarations :=
        if ambient.getLast? == some '\n' then ambient ++ declarations
        else ambient ++ '\n' :: declarations }

def kindOf (language : Language) (fileName : Text) : LanguageKind :=
  let extension := ((Path.ofText fileName).extension?.bind Utf8.read?).getD []
  if (language.frameworks.find? extension).isSome then .framework extension.lower else .component

def generate (language : Language) (text : Text) (blocks : List Block) (fileName : Text)
    (version : Nat) : Generated :=
  Virtual.generate language.compiler text blocks
    { fileName := fileName
      version := version
      inlineAttributes := language.inlineAttributes
      ambientDeclarations := language.ambientDeclarations }

/-- The files of a framework's component; only its first statement is tied to the document. -/
def generateFramework? (language : Language) (text fileName extension : Text) (version : Nat) :
    Option Generated :=
  (language.frameworks.find? extension).map fun integration =>
    let code := integration text (Tsx.componentName fileName)
    { primary :=
        { name := fileName ++ ".tsx".toList
          kind := .primary
          text := code
          version := version
          mapping := .ofSegments [.anchor (Virtual.firstStatement code)] }
      satellites := []
      styles := []
      diagnostics := [] }

end Language

end ComponentServer
