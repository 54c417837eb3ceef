import ComponentServer.Serving.Completion
import ComponentServer.Serving.Hover
import ComponentServer.Session.Basic
import ComponentServer.Session.Message

/-!
What a session does with the messages of its client. Requests get a reply, notifications none; all
but the first request are refused before it and after the last one, and nothing is answered or sent
after the client has said that it leaves.
-/

namespace ComponentServer.Session

/-- The name and the version under which the server introduces itself. -/
def serverName : String := "astrols"

def serverVersion : String := "0.1.0"

/-- The characters behind which completions are asked for. -/
def triggerCharacters : List String := [".", "<"]

/-- The name of the wish to be told about changes of files. -/
def watchId : String := "astrols-watched-files"

/-- The files that the server wants to be told about. -/
def watchPatterns : List String :=
  ["**/*.\x7bastro,ts,tsx,mts,js,mjs\x7d", "**/" ++ String.ofList Settings.fileName]

def readyMessage : String := "Astro language server initialized"

inductive Refusal where
  | methodNotFound
  | notInitialized
  | invalidRequest
  | invalidParams
deriving DecidableEq, Repr

def Refusal.code : Refusal → Int
  | methodNotFound => -32601
  | notInitialized => -32002
  | invalidRequest => -32600
  | invalidParams => -32602

inductive Reply where
  | welcome
  | hover (hover : Option Hover)
  | completion (completions : Option (List Completion))
  | done
  | refused (refusal : Refusal)
deriving DecidableEq, Repr

/-- Starts the session in the workspace's folder. -/
def beginIn (session : Session) (introduction : Introduction) : Session :=
  let path := (introduction.folder.bind Uri.filePath?).or (introduction.root.bind Uri.filePath?)
  match path with
  | some path => { session with phase := .running, root := some path }.loadSettings
  | none => { session with phase := .running }

/-- Cancels all pending runs. -/
def cancelAll (session : Session) : Session :=
  { session with
    tokens := (session.pending.entries.map Prod.snd).foldl Tokens.cancel session.tokens }

/-- Answers a request. -/
def answer (session : Session) : Request → Reply
  | .hover uri position =>
    .hover ((session.store.snapshot? uri).bind fun snapshot =>
      hoverAt? snapshot ImportState.checker position)
  | .completion uri position =>
    .completion ((session.store.snapshot? uri).bind fun snapshot =>
      completionsAt? snapshot ImportState.checker position)
  | .unsupported => .refused .methodNotFound

def didOpen (session : Session) (uri : Uri) (text : Text) (version : Int) : Session :=
  let (snapshot, store) := session.store.accept uri text version session.language
  { session with store := store }.schedule uri.render snapshot

def didChange (session : Session) (uri : Uri) (changes : List Change) (version : Int) : Session :=
  match session.store.edit uri changes version session.language with
  | (some snapshot, store) => { session with store := store }.schedule uri.render snapshot
  | (none, _) => session

/-- Closes a document: its pending run is cancelled and its diagnostics are taken back. -/
def didClose (session : Session) (uri : Uri) : Session × List Outgoing :=
  let cancelled := session.cancelPending uri.render
  ({ cancelled with
     pending := cancelled.pending.erase uri.render
     store := cancelled.store.close uri }, [.publish uri.render [] none])

/-- Whether a path is that of a settings file. -/
def isSettingsFile (path : Path) : Bool := path.fileName? == some Settings.fileName.utf8

/-- Forgets what the changed files may affect. When settings changed, they are read again and all
documents derived anew; in any case all are checked again. -/
def didChangeFiles (session : Session) (uris : List Uri) : Session :=
  let paths := uris.filterMap Uri.filePath?
  let cache := paths.foldl (fun cache path => (cache.invalidate path).2) session.imports.cache
  let forgot := { session with imports := { session.imports with cache := cache } }
  if paths.any isSettingsFile then
    let loaded := forgot.loadSettings
    let (snapshots, store) := loaded.store.renew loaded.language
    { loaded with store := store }.scheduleEach snapshots
  else forgot.scheduleAll

/-- Handles a notification. -/
def handle (session : Session) : Notification → Session × List Outgoing
  | .initialized => (session, [.watchFiles, .ready])
  | .didOpen uri text version => (session.didOpen uri text version, [])
  | .didChange uri changes version => (session.didChange uri changes version, [])
  | .didClose uri => session.didClose uri
  | .didChangeFiles uris => (session.didChangeFiles uris, [])
  | .other => (session, [])

/-- Why a message is refused in a phase, unless the session is running. -/
def refusalIn? : Phase → Option Refusal
  | .uninitialized => some .notInitialized
  | .running => none
  | .stopped => some .invalidRequest
  | .left => some .invalidRequest

/-- What a session does with a message: its new state, perhaps a reply, and what it sends. -/
structure Response where
  session : Session
  reply : Option Reply
  sent : List Outgoing

/-- Refuses a message; a client that waits for no reply gets none. -/
def refuse (session : Session) (message : Message) (refusal : Refusal) : Response :=
  ⟨session, if message.wantsReply then some (.refused refusal) else none, []⟩

/-- Handles the first request, whose parameters have to be understood. -/
def introduce (session : Session) (message : Message) : Response :=
  if session.phase != .uninitialized then session.refuse message .invalidRequest
  else if !message.wantsReply then ⟨session, none, []⟩
  else
    match Introduction.read? message.params with
    | some introduction => ⟨session.beginIn introduction, some .welcome, []⟩
    | none => session.refuse message .invalidParams

/-- Handles the last request, which has no parameters. The session stops in any case, but only a
request that is understood cancels its runs. -/
def shutdown (session : Session) (message : Message) : Response :=
  match refusalIn? session.phase with
  | some refusal => session.refuse message refusal
  | none =>
    let stopped := { session with phase := .stopped }
    if !message.wantsReply then ⟨stopped, none, []⟩
    else if message.params.isSome then stopped.refuse message .invalidParams
    else ⟨stopped.cancelAll, some .done, []⟩

/-- Handles any other request. -/
def request (session : Session) (message : Message) (shape : Shape) : Response :=
  match refusalIn? session.phase with
  | some refusal => session.refuse message refusal
  | none =>
    if !message.wantsReply then ⟨session, none, []⟩
    else
      match Request.read? message.method shape message.params with
      | some request => ⟨session, some (session.answer request), []⟩
      | none => session.refuse message .invalidParams

/-- Handles a notification, unless the client waits for a reply or its parameters are not
understood. -/
def notify (session : Session) (message : Message) (shape : Shape) : Response :=
  match refusalIn? session.phase with
  | some refusal => session.refuse message refusal
  | none =>
    if message.wantsReply then session.refuse message .invalidRequest
    else
      match Notification.read? message.method shape message.params with
      | some notification =>
        let (next, sent) := session.handle notification
        ⟨next, none, sent⟩
      | none => ⟨session, none, []⟩

/-- Handles a message that the protocol does not have; those of a single implementation start with
`$/` and may be passed over. -/
def passOver (session : Session) (message : Message) : Response :=
  if message.method.startsWith "$/" then ⟨session, none, []⟩
  else session.refuse message .methodNotFound

/-- Handles a message. -/
def receive (session : Session) (message : Message) : Response :=
  if session.phase = .left then ⟨session, none, []⟩
  else if message.method = "exit" then ⟨{ session with phase := .left }, none, []⟩
  else if message.method = "$/cancelRequest" then session.refuse message .invalidRequest
  else if message.method = "initialize" then session.introduce message
  else if message.method = "shutdown" then session.shutdown message
  else
    match Parameters.requests.lookup message.method,
      Parameters.notifications.lookup message.method with
    | some shape, _ => session.request message shape
    | none, some shape => session.notify message shape
    | none, none => session.passOver message

/-- Handles messages one after the other and then completes all runs: the replies, and what is sent
unless the client has left. -/
def exchange (session : Session) (messages : List Message) :
    Session × List (Option Reply) × List Outgoing :=
  let (reached, replies, sent) := messages.foldl (fun (session, replies, sent) message =>
    let response := session.receive message
    (response.session, replies ++ [response.reply], sent ++ response.sent)) (session, [], [])
  let (settled, published) := reached.settle
  (settled, replies, if settled.phase = .left then [] else sent ++ published)

end ComponentServer.Session
