import ComponentServer.Editing.Document
import ComponentServer.Uri.Basic

/-!
The store of open documents, by the text of their URIs.
-/

namespace ComponentServer

structure Store where
  documents : Table Document

namespace Store

def empty : Store := ⟨.empty⟩

/-- Opens a document, in the place of an open one with the same URI, and gives its snapshot. -/
def accept (store : Store) (uri : Uri) (text : Text) (clientVersion : Int)
    (language : Language) : Snapshot × Store :=
  let document := Document.create uri.fileName text clientVersion language
  (document.snapshot, ⟨store.documents.insert uri.render document⟩)

def openDocument (store : Store) (uri : Uri) (text : Text) (clientVersion : Int)
    (language : Language) : Store :=
  (store.accept uri text clientVersion language).2

/-- The current snapshot of a document. -/
def snapshot? (store : Store) (uri : Uri) : Option Snapshot :=
  (store.documents.find? uri.render).map (·.snapshot)

/-- Applies changes to a document and gives its new snapshot, if the document is open. -/
def edit (store : Store) (uri : Uri) (changes : List Change) (clientVersion : Int)
    (language : Language) : Option Snapshot × Store :=
  match store.documents.find? uri.render with
  | some document =>
    let edited := document.update changes clientVersion language
    (some edited.snapshot, ⟨store.documents.insert uri.render edited⟩)
  | none => (none, store)

def update (store : Store) (uri : Uri) (changes : List Change) (clientVersion : Int)
    (language : Language) : Store :=
  (store.edit uri changes clientVersion language).2

/-- The URIs of all open documents, in order, with their snapshots. -/
def snapshots (store : Store) : List (Text × Snapshot) :=
  store.documents.entries.map fun entry => (entry.1, entry.2.snapshot)

/-- Derives all documents anew, each with the version its editor gave last, and gives their
snapshots. -/
def renew (store : Store) (language : Language) : List (Text × Snapshot) × Store :=
  let renewed : Store := ⟨store.documents.map fun document =>
    document.rederive document.snapshot.clientVersion language⟩
  (renewed.snapshots, renewed)

def rederiveAll (store : Store) (language : Language) : Store := (store.renew language).2

def close (store : Store) (uri : Uri) : Store := ⟨store.documents.erase uri.render⟩

def uris (store : Store) : List Text := store.documents.keys

end Store

end ComponentServer
