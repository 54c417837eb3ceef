import ComponentServer.Editing.Change
import ComponentServer.Session.Parameters

/-!
Messages of a client, and what they ask for once their parameters are read.
-/

namespace ComponentServer

structure Message where
  method : String
  params : Option Json
  /-- Whether the client waits for a reply. -/
  wantsReply : Bool

/-- The folders of a workspace, as far as a client names them. -/
structure Introduction where
  /-- The first folder. -/
  folder : Option Uri
  /-- The root of the older kind. -/
  root : Option Uri
deriving DecidableEq, Repr

inductive Request where
  | hover (uri : Uri) (position : Position)
  | completion (uri : Uri) (position : Position)
  /-- A method that the server does not offer. -/
  | unsupported
deriving DecidableEq, Repr

inductive Notification where
  | initialized
  | didOpen (uri : Uri) (text : Text) (version : Int)
  | didChange (uri : Uri) (changes : List Change) (version : Int)
  | didClose (uri : Uri)
  | didChangeFiles (uris : List Uri)
  /-- A method that the server takes no notice of. -/
  | other

namespace Parameters

def uri? (json : Json) : Option Uri := json.text?.bind Uri.parse?

def position? (json : Json) : Option Position := do
  let line ← (← json.part? 0 "line").word?
  let column ← (← json.part? 1 "character").word?
  return ⟨line, column⟩

def region? (json : Json) : Option Region := do
  let start ← position? (← json.part? 0 "start")
  let stop ← position? (← json.part? 1 "end")
  return ⟨start, stop⟩

def change? (json : Json) : Option Change := do
  let region ← Json.optional? region? (json.part? 0 "range")
  let text ← (← json.part? 2 "text").text?
  return ⟨region, text⟩

def each? {α : Type} (read : Json → Option α) : Json → Option (List α)
  | .array items => items.mapM read
  | _ => none

/-- The URI of a document or of a file. -/
def ownUri? (json : Json) : Option Uri := do uri? (← json.part? 0 "uri")

def documentUri? (params : Json) : Option Uri := do ownUri? (← params.part? 0 "textDocument")

/-- The parameters of a message, if they have the shape they should have. -/
def shaped? (shape : Shape) (params : Option Json) : Option Json :=
  params.bind fun json => if shape json then some json else none

end Parameters

open Parameters

/-- Reads the parameters of the first request. -/
def Introduction.read? (params : Option Json) : Option Introduction := do
  let params ← shaped? introduction params
  let folders ← Json.optional? (each? ownUri?) (params.part? 6 "workspaceFolders")
  let root ← Json.optional? uri? (params.part? 2 "rootUri")
  return ⟨folders.bind List.head?, root⟩

/-- Reads the parameters of a request. -/
def Request.read? (method : String) (shape : Shape) (params : Option Json) : Option Request := do
  let params ← shaped? shape params
  match method with
  | "textDocument/hover" =>
    return .hover (← documentUri? params) (← position? (← params.part? 1 "position"))
  | "textDocument/completion" =>
    return .completion (← documentUri? params) (← position? (← params.part? 1 "position"))
  | _ => return .unsupported

/-- Reads the parameters of a notification. -/
def Notification.read? (method : String) (shape : Shape) (params : Option Json) :
    Option Notification := do
  let params ← shaped? shape params
  match method with
  | "initialized" => return .initialized
  | "textDocument/didOpen" =>
    let document ← params.part? 0 "textDocument"
    let version ← (← document.part? 2 "version").signed?
    return .didOpen (← ownUri? document) (← (← document.part? 3 "text").text?) version
  | "textDocument/didChange" =>
    let document ← params.part? 0 "textDocument"
    let version ← (← document.part? 1 "version").signed?
    let changes ← each? change? (← params.part? 1 "contentChanges")
    return .didChange (← ownUri? document) changes version
  | "textDocument/didClose" => return .didClose (← documentUri? params)
  | "workspace/didChangeWatchedFiles" =>
    return .didChangeFiles (← each? ownUri? (← params.part? 0 "changes"))
  | _ => return .other

end ComponentServer
