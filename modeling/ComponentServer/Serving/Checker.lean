import ComponentServer.Tsx.Output
import ComponentServer.Virtual.File

/-!
Checkers. A checker sees virtual files only, and every offset it gives or takes is an offset of
their text. Checking may change what the checker knows.
-/

namespace ComponentServer

structure CheckerDiagnostic where
  span : Span
  severity : Severity
  code : Option Nat
  message : String
deriving DecidableEq, Repr

structure CheckerHover where
  span : Span
  contents : String
deriving DecidableEq, Repr

inductive CompletionKind where
  | variableName
  | functionName
  | propertyName
  | moduleName
  | keyword
  | className
deriving DecidableEq, Repr

/-- The number that editors know a kind by. -/
def CompletionKind.number : CompletionKind → Nat
  | variableName => 6
  | functionName => 3
  | propertyName => 10
  | moduleName => 9
  | keyword => 14
  | className => 7

structure CheckerCompletion where
  label : Text
  kind : CompletionKind
  detail : Option Text
  /-- What the label takes the place of, when it is accepted. -/
  replace : Option Span
deriving DecidableEq, Repr

/-- A checker that knows a `σ`. -/
structure Checker (σ : Type) where
  diagnostics : VirtualFile → σ → List CheckerDiagnostic × σ
  hover : VirtualFile → Nat → Option CheckerHover := fun _ _ => none
  completions : VirtualFile → Nat → List CheckerCompletion := fun _ _ => []

end ComponentServer
