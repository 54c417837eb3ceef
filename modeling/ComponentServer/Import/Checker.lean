import ComponentServer.FileTree
import ComponentServer.Import.Resolution
import ComponentServer.Import.Specifier
import ComponentServer.Serving.Checker

/-!
The import checker reports relative imports that lead to no file.
-/

namespace ComponentServer

/-- The files as they are, and what earlier checks resolved. -/
structure ImportState where
  tree : FileTree
  cache : ResolutionCache

namespace ImportState

def unresolvedCode : Nat := 2307

/-- What may be added to a module's name to get the name of its file, in this order. -/
def candidates : List Text :=
  ["", ".ts", ".tsx", ".mts", ".js", ".mjs", ".astro", "/index.ts", "/index.js"].map String.toList

/-- The first file that a module's name may stand for. -/
def resolve (tree : FileTree) (module : Text) (file : Path) : Resolution :=
  match file.parent? with
  | none => .notFound
  | some folder =>
    let paths := candidates.map fun ending => folder.join (.ofText (module ++ ending))
    match paths.find? tree.isFile with
    | some path => .resolved path
    | none => .notFound

def unresolved (specifier : Specifier) : CheckerDiagnostic where
  span := specifier.span
  severity := .error
  code := some unresolvedCode
  message := "Cannot find module '" ++ String.ofList specifier.name ++ "'."

/-- Checks specifiers one after the other. -/
def checkAll (file : Path) : List Specifier → ImportState → List CheckerDiagnostic × ImportState
  | [], state => ([], state)
  | specifier :: others, state =>
    let (resolution, cache) := state.cache.findOrResolve specifier.name file
      fun _ => resolve state.tree specifier.name file
    let (found, last) := checkAll file others { state with cache := cache }
    match resolution with
    | .resolved _ => (found, last)
    | .notFound => (unresolved specifier :: found, last)

def check (file : VirtualFile) (state : ImportState) : List CheckerDiagnostic × ImportState :=
  checkAll (.ofText file.name) (Specifier.relative file.text) state

def checker : Checker ImportState where
  diagnostics := check

end ImportState

end ComponentServer
