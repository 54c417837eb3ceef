import ComponentServer.Mapping.OffsetMapping
import ComponentServer.Tsx.Output

/-!
Virtual files: generated texts that stand in for a document or a part of it.
-/

namespace ComponentServer

inductive VirtualKind where
  /-- The whole document as code. -/
  | primary
  /-- A module script, numbered among the scripts of the document. -/
  | script (index : Nat)
  /-- A style, numbered among the styles of the document. -/
  | style (index : Nat)
deriving DecidableEq, Repr

/-- Whether the checker sees files of the kind. -/
def VirtualKind.isChecked : VirtualKind → Bool
  | style _ => false
  | _ => true

structure VirtualFile where
  name : Text
  kind : VirtualKind
  text : Text
  /-- The version of the document it was generated for. -/
  version : Nat
  mapping : OffsetMapping
deriving DecidableEq, Repr

/-- All that is generated for one version of a document. -/
structure Generated where
  primary : VirtualFile
  satellites : List VirtualFile
  styles : List VirtualFile
  diagnostics : List CompileDiagnostic

namespace Generated

def files (generated : Generated) : List VirtualFile :=
  generated.primary :: (generated.satellites ++ generated.styles)

end Generated

end ComponentServer
