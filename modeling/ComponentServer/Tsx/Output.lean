import ComponentServer.Text.Basic

/-!
What a compiler of components gives: code, a source map and diagnostics, or a failure.
-/

namespace ComponentServer

inductive Severity where
  | error
  | warning
  | information
  | hint
deriving DecidableEq, Repr

/-- The number that editors know a severity by. -/
def Severity.number : Severity → Nat
  | error => 1
  | warning => 2
  | information => 3
  | hint => 4

/-- A place in a document; line and column count from one. -/
structure Location where
  line : Nat
  column : Nat
  length : Nat
deriving DecidableEq, Repr

structure CompileDiagnostic where
  code : Nat
  severity : Severity
  /-- Problems of the whole file have none. -/
  location : Option Location
  message : String
  hint : Option String
deriving DecidableEq, Repr

structure Output where
  code : Text
  /-- A source map document. -/
  map : Text
  diagnostics : List CompileDiagnostic
deriving DecidableEq, Repr

inductive CompileFailure where
  /-- The compiler gave up. -/
  | failed (message : String)
  /-- The compiler broke down, perhaps without saying why. -/
  | crashed (message : Option String)
deriving DecidableEq, Repr

def CompileFailure.message : CompileFailure → String
  | failed message => "compiler failed: " ++ message
  | crashed message => "compiler panicked: " ++ message.getD "unknown panic"

/-- A compiler turns a document and its file name into checkable code. -/
abbrev Compiler := Text → Text → Except CompileFailure Output

namespace CompileDiagnostic

def internalErrorCode : Nat := 1000

def openFrontmatterCode : Nat := 2001

def unclosedBlockCode : Nat := 2002

/-- Stands for a compilation that failed. -/
def internalError (detail : String) : CompileDiagnostic where
  code := internalErrorCode
  severity := .error
  location := none
  message := "internal compiler error: " ++ detail
  hint := some "This is a bug in the compiler, not in your file."

end CompileDiagnostic

end ComponentServer
