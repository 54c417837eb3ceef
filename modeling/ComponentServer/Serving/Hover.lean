import ComponentServer.Serving.Checker
import ComponentServer.Snapshot

/-!
Hovers: what the checker says about a place, shown in the document.
-/

namespace ComponentServer

structure Hover where
  contents : String
  /-- The stretch it is about, if both ends have a place in the document. -/
  region : Option Region
deriving DecidableEq, Repr

def hoverAt? {σ : Type} (snapshot : Snapshot) (checker : Checker σ) (position : Position) :
    Option Hover := do
  let offset ← snapshot.text.offsetAt? position
  let (file, place) ← snapshot.locate? offset .semantic
  if !file.kind.isChecked then none
  let hover ← checker.hover file place
  return {
    contents := hover.contents
    region := (file.mapping.spanAcross? .generated (some .semantic) hover.span).map
      snapshot.text.regionOf }

end ComponentServer
