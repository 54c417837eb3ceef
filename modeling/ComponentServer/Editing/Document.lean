import ComponentServer.Editing.Change
import ComponentServer.Snapshot

/-!
Open documents: a text that is edited, and the snapshot derived from it after every edit.
-/

namespace ComponentServer

structure Document where
  fileName : Text
  text : Text
  version : Nat
  snapshot : Snapshot

namespace Document

def create (fileName text : Text) (clientVersion : Int) (language : Language) : Document where
  fileName := fileName
  text := text
  version := 1
  snapshot := .derive fileName text 1 clientVersion language

/-- Derives the snapshot anew, as the next version. -/
def rederive (document : Document) (clientVersion : Int) (language : Language) : Document :=
  { document with
    version := document.version + 1
    snapshot :=
      .derive document.fileName document.text (document.version + 1) clientVersion language }

/-- Applies changes one after the other, then derives the snapshot. -/
def update (document : Document) (changes : List Change) (clientVersion : Int)
    (language : Language) : Document :=
  { document with text := Change.applyAll document.text changes }.rederive clientVersion language

end Document

end ComponentServer
