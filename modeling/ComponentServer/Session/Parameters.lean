import ComponentServer.Json.Shape
import ComponentServer.Uri.Basic

/-!
The shapes of the parameters of all methods. A message whose parameters have another shape is
refused or passed over, whether the server offers its method or not.
-/

namespace ComponentServer.Parameters

open Shape Member

def uri : Shape := fun json => (json.text?.bind Uri.parse?).isSome

def position : Shape := record [needed "line" word, needed "character" word]

def range : Shape := record [needed "start" position, needed "end" position]

def document : Shape := record [needed "uri" uri]

def versionedDocument : Shape := record [needed "uri" uri, needed "version" signed]

def openedDocument : Shape :=
  record [needed "uri" uri, needed "languageId" text, needed "version" signed, needed "text" text]

def edit : Shape := record [needed "range" range, needed "newText" text]

def change : Shape :=
  record [optional "range" range, optional "rangeLength" word, needed "text" text]

def numberOrText : Shape := either signed text

def folder : Shape := record [needed "uri" uri, needed "name" text]

/-- The names under which a client wants to hear about progress. -/
def progress : List Member :=
  [optional "workDoneToken" numberOrText, optional "partialResultToken" numberOrText]

/-- A document and other members. -/
def inDocument (members : List Member) : Shape :=
  object (needed "textDocument" document :: members ++ progress)

/-- A position in a document and other members. -/
def atPosition (members : List Member) : Shape := inDocument (needed "position" position :: members)

/-- Members that may be left out, all of one shape. -/
def optionals (shape : Shape) (names : List String) : List Member :=
  names.map fun name => optional name shape

/-- What a client can do with tokens of meaning, which it has to say in full. -/
def tokenAbilities : Shape :=
  object (needed "requests" (object []) :: needed "tokenTypes" (list text) ::
    needed "tokenModifiers" (list text) :: needed "formats" (list text) ::
    optionals truth ["dynamicRegistration", "overlappingTokenSupport", "multilineTokenSupport",
      "serverCancelSupport", "augmentsSyntaxTokens"])

/-- What a client can do; the details of single features are passed over. -/
def abilities : Shape :=
  let workspace := object (optionals truth ["applyEdit", "workspaceFolders", "configuration"] ++
    optionals (object []) ["workspaceEdit", "didChangeConfiguration", "didChangeWatchedFiles",
      "symbol", "executeCommand", "semanticTokens", "codeLens", "fileOperations", "inlineValue",
      "inlayHint", "diagnostic"])
  let textDocument := object (optional "semanticTokens" tokenAbilities ::
    optionals (object []) ["synchronization", "completion", "hover", "signatureHelp", "references",
      "documentHighlight", "documentSymbol", "formatting", "rangeFormatting", "onTypeFormatting",
      "declaration", "definition", "typeDefinition", "implementation", "codeAction", "codeLens",
      "documentLink", "colorProvider", "rename", "publishDiagnostics", "foldingRange",
      "selectionRange", "linkedEditingRange", "callHierarchy", "moniker", "typeHierarchy",
      "inlineValue", "inlayHint", "diagnostic"])
  let window := object (optional "workDoneProgress" truth ::
    optionals (object []) ["showMessage", "showDocument"])
  let general := object (optional "positionEncodings" (list text) ::
    optionals (object []) ["regularExpressions", "markdown", "staleRequestSupport"])
  object [optional "workspace" workspace, optional "textDocument" textDocument,
    optional "notebookDocument" (object [needed "synchronization" (object [])]),
    optional "window" window, optional "general" general, optional "experimental" anything]

def introduction : Shape :=
  object [optional "processId" word, optional "rootPath" text, optional "rootUri" uri,
    optional "initializationOptions" anything, needed "capabilities" abilities,
    optional "trace" (oneOf ["off", "messages", "verbose"]),
    optional "workspaceFolders" (list folder),
    optional "clientInfo" (record [needed "name" text, optional "version" text]),
    optional "locale" text]

def completion : Shape :=
  atPosition [optional "context"
    (record [needed "triggerKind" signed, optional "triggerCharacter" text])]

def diagnostic : Shape :=
  record [needed "range" range, optional "severity" signed, optional "code" numberOrText,
    optional "codeDescription" (record [needed "href" uri]), optional "source" text,
    needed "message" text,
    optional "relatedInformation" (list (record
      [needed "location" (record [needed "uri" uri, needed "range" range]),
        needed "message" text])),
    optional "tags" (list signed), optional "data" anything]

def action : Shape :=
  inDocument [needed "range" range,
    needed "context" (record [needed "diagnostics" (list diagnostic), optional "only" (list text),
      optional "triggerKind" signed])]

def signature : Shape :=
  atPosition [optional "context" (record [needed "triggerKind" signed,
    optional "triggerCharacter" text, needed "isRetrigger" truth,
    optional "activeSignatureHelp" (object [needed "signatures" (list (object []))])])]

/-- Wishes for the layout; those that are not known are a truth value, a number or a text. -/
def layout : Shape := fun json =>
  object [needed "tabSize" word, needed "insertSpaces" truth,
    optional "trimTrailingWhitespace" truth, optional "insertFinalNewline" truth,
    optional "trimFinalNewlines" truth] json &&
  mapping ["tabSize", "insertSpaces", "trimTrailingWhitespace", "insertFinalNewline",
    "trimFinalNewlines"] (either truth numberOrText) json

def symbolTags : Member := optional "tags" (list signed)

/-- An item of a hierarchy of calls or types. -/
def hierarchyItem : Shape :=
  record [needed "name" text, needed "kind" signed, symbolTags, optional "detail" text,
    needed "uri" uri, needed "range" range, needed "selectionRange" range, optional "data" anything]

def inHierarchy : Shape := object (needed "item" hierarchyItem :: progress)

def command : Shape :=
  record [needed "title" text, needed "command" text, optional "arguments" (list anything)]

def color : Shape :=
  record [needed "red" number, needed "green" number, needed "blue" number, needed "alpha" number]

def named : Shape := record [needed "uri" text]

def renamed : Shape := record [needed "oldUri" text, needed "newUri" text]

def files (file : Shape) : Shape := record [needed "files" (list file)]

def saving : Shape := record [needed "textDocument" document, needed "reason" signed]

/-- The notifications of the protocol. -/
def notifications : List (String × Shape) :=
  [("initialized", record []),
    ("textDocument/didOpen", record [needed "textDocument" openedDocument]),
    ("textDocument/didChange",
      record [needed "textDocument" versionedDocument, needed "contentChanges" (list change)]),
    ("textDocument/willSave", saving),
    ("textDocument/didSave", record [needed "textDocument" document, optional "text" text]),
    ("textDocument/didClose", record [needed "textDocument" document]),
    ("workspace/didChangeConfiguration", record [needed "settings" anything]),
    ("workspace/didChangeWorkspaceFolders",
      record [needed "event"
        (record [needed "added" (list folder), needed "removed" (list folder)])]),
    ("workspace/didCreateFiles", files named),
    ("workspace/didRenameFiles", files renamed),
    ("workspace/didDeleteFiles", files named),
    ("workspace/didChangeWatchedFiles",
      record [needed "changes" (list (record [needed "uri" uri, needed "type" signed]))])]

/-- The requests of the protocol, but for the first and the last one. -/
def requests : List (String × Shape) :=
  [("textDocument/hover", atPosition []),
    ("textDocument/completion", completion),
    ("textDocument/willSaveWaitUntil", saving),
    ("textDocument/declaration", atPosition []),
    ("textDocument/definition", atPosition []),
    ("textDocument/typeDefinition", atPosition []),
    ("textDocument/implementation", atPosition []),
    ("textDocument/references",
      atPosition [needed "context" (record [needed "includeDeclaration" truth])]),
    ("textDocument/prepareCallHierarchy", atPosition []),
    ("callHierarchy/incomingCalls", inHierarchy),
    ("callHierarchy/outgoingCalls", inHierarchy),
    ("textDocument/prepareTypeHierarchy", atPosition []),
    ("typeHierarchy/supertypes", inHierarchy),
    ("typeHierarchy/subtypes", inHierarchy),
    ("textDocument/documentHighlight", atPosition []),
    ("textDocument/documentLink", inDocument []),
    ("documentLink/resolve",
      record [needed "range" range, optional "target" uri, optional "tooltip" text,
        optional "data" anything]),
    ("textDocument/codeLens", inDocument []),
    ("codeLens/resolve",
      record [needed "range" range, optional "command" command, optional "data" anything]),
    ("textDocument/foldingRange", inDocument []),
    ("textDocument/selectionRange", inDocument [needed "positions" (list position)]),
    ("textDocument/documentSymbol", inDocument []),
    ("textDocument/semanticTokens/full", inDocument []),
    ("textDocument/semanticTokens/full/delta", inDocument [needed "previousResultId" text]),
    ("textDocument/semanticTokens/range", inDocument [needed "range" range]),
    ("textDocument/inlineValue",
      inDocument [needed "range" range,
        needed "context" (record [needed "frameId" signed, needed "stoppedLocation" range])]),
    ("textDocument/inlayHint", inDocument [needed "range" range]),
    ("inlayHint/resolve",
      object [needed "position" position,
        needed "label" (either text (list (object [needed "value" text]))),
        optional "kind" signed, optional "textEdits" (list edit),
        optional "paddingLeft" truth, optional "paddingRight" truth, optional "data" anything]),
    ("textDocument/moniker", atPosition []),
    ("completionItem/resolve",
      object [needed "label" text, optional "kind" signed, optional "detail" text,
        optional "deprecated" truth, optional "preselect" truth, optional "sortText" text,
        optional "filterText" text, optional "insertText" text, optional "insertTextFormat" signed,
        optional "additionalTextEdits" (list edit), optional "command" command,
        optional "commitCharacters" (list text), optional "data" anything, symbolTags]),
    ("textDocument/diagnostic",
      inDocument [optional "identifier" text, optional "previousResultId" text]),
    ("workspace/diagnostic",
      object ([optional "identifier" text,
        needed "previousResultIds" (list (record [needed "uri" uri, needed "value" text]))] ++
        progress)),
    ("textDocument/signatureHelp", signature),
    ("textDocument/codeAction", action),
    ("codeAction/resolve",
      object [needed "title" text, optional "kind" text, optional "diagnostics" (list diagnostic),
        optional "edit" (object []), optional "command" command, optional "isPreferred" truth,
        optional "data" anything]),
    ("textDocument/documentColor", inDocument []),
    ("textDocument/colorPresentation", inDocument [needed "color" color, needed "range" range]),
    ("textDocument/formatting", inDocument [needed "options" layout]),
    ("textDocument/rangeFormatting", inDocument [needed "range" range, needed "options" layout]),
    ("textDocument/onTypeFormatting", atPosition [needed "ch" text, needed "options" layout]),
    ("textDocument/rename", atPosition [needed "newName" text]),
    ("textDocument/prepareRename",
      record [needed "textDocument" document, needed "position" position]),
    ("textDocument/linkedEditingRange", atPosition []),
    ("workspace/symbol", object (needed "query" text :: progress)),
    ("workspaceSymbol/resolve",
      object [needed "name" text, needed "kind" signed, symbolTags, optional "containerName" text,
        needed "location" (object [needed "uri" uri]), optional "data" anything]),
    ("workspace/willCreateFiles", files named),
    ("workspace/willRenameFiles", files renamed),
    ("workspace/willDeleteFiles", files named),
    ("workspace/executeCommand",
      object (needed "command" text :: preset "arguments" (list anything) :: progress))]

end ComponentServer.Parameters
