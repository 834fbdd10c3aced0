import Sigil.Check
import Sigil.Completion
import Sigil.Server.Message
import Sigil.Server.Params

/-! # Serving an editor

    The server keeps the documents that an editor has open.  It publishes the
    findings on a document whenever the document changes, and answers requests for
    suggestions.

    * `Server`: the catalog and the open documents.
    * `Server.receive`: what becomes of the server on a message, and what it sends.
    * `Session`: a server that runs until it is told to exit. -/

namespace Sigil

/-- A document that is open.  Only a document of a known kind is checked. -/
structure OpenDocument where
  text : Text
  kind : Option DocumentKind
deriving DecidableEq, Repr

/-- The catalog, and the open documents by their identifiers. -/
structure Server where
  catalog : Catalog
  documents : Table OpenDocument

namespace Server

/-- A server without documents. -/
def start (catalog : Catalog) : Server := { catalog, documents := [] }

/-! ## Diagnostics -/

/-- The number of a severity. -/
def severityNumber : Severity → Nat
  | .error => 1
  | .warning => 2
  | .info => 3

/-- A finding on a text, as an editor shows it. -/
def diagnostic (t : Text) (f : Finding) : Json :=
  Json.ofMembers
    [("range".toList, Json.ofMembers
      [(Params.startField.name, (Position.ofOffset t f.offset).toJson),
        (Params.endField.name, (Position.ofOffset t (f.offset + f.width)).toJson)]),
      ("severity".toList, .integer (severityNumber f.severity)),
      ("source".toList, .string "firebot".toList),
      ("message".toList, .string f.message)]

/-- The findings on a document, as an editor shows them. -/
def diagnostics (s : Server) (uri : Text) : List Json :=
  match Table.get? uri s.documents with
  | some { text, kind := some kind } => (check s.catalog kind text).map (diagnostic text)
  | _ => []

/-- The notification that tells an editor all findings on a document. -/
def publish (uri : Text) (diagnostics : List Json) : Reply :=
  .notification "textDocument/publishDiagnostics".toList
    (Json.ofMembers
      [(Params.uriField.name, .string uri), ("diagnostics".toList, .array diagnostics)])

/-- Publish the findings on a document. -/
def report (s : Server) (uri : Text) : Server × List Reply :=
  (s, [publish uri (s.diagnostics uri)])

/-! ## Documents -/

/-- Keep a document. -/
def put (s : Server) (uri : Text) (document : OpenDocument) : Server :=
  { s with documents := Table.insert uri document s.documents }

/-- A document is opened. -/
def didOpen (s : Server) (p : Params.Open) : Server × List Reply :=
  (s.put p.uri { text := p.text, kind := DocumentKind.ofLanguage? p.language }).report p.uri

/-- A document is changed, and has the text of the last change.  One that was never
    opened is kept, but not checked. -/
def didChange (s : Server) (p : Params.Change) : Server × List Reply :=
  match p.texts.getLast? with
  | some text =>
    let kind := (Table.get? p.uri s.documents).bind OpenDocument.kind
    (s.put p.uri { text, kind }).report p.uri
  | none => (s, [])

/-- A document is saved. -/
def didSave (s : Server) (p : Params.Save) : Server × List Reply :=
  match p.text, Table.get? p.uri s.documents with
  | some text, some document => (s.put p.uri { document with text }).report p.uri
  | _, _ => s.report p.uri

/-- A document is closed, and nothing is left to say about it. -/
def didClose (s : Server) (uri : Text) : Server × List Reply :=
  ({ s with documents := Table.erase uri s.documents }, [publish uri []])

/-! ## Completion -/

/-- A suggestion as an editor offers it. -/
def completionItem (s : Suggestion) : Json :=
  let kind : Int := match s.kind with
    | .variableName => 6
    | .snippet => 15
  Json.ofMembers (
    [("label".toList, .string s.label), ("kind".toList, .integer kind),
      ("documentation".toList, Json.ofMembers
        [("kind".toList, .string "markdown".toList), ("value".toList, .string s.documentation)]),
      ("sortText".toList, .string s.sortText), ("insertText".toList, .string s.template),
      ("insertTextFormat".toList, .integer 2)]
    ++ (s.detail.map fun detail => ("detail".toList, Json.string detail)).toList
    ++ (if s.deprecated then [("tags".toList, .array [.integer 1])] else []))

/-- The suggestions at a position of a document, or `null` for a document that is
    not open. -/
def complete (s : Server) (p : Params.CompletionRequest) : Json :=
  match Table.get? p.uri s.documents with
  | none => .null
  | some document =>
    let offset := p.position.toOffset document.text
    let cursor := Cursor.classify (document.kind.getD .script) document.text offset
    .array ((Completion.suggest s.catalog cursor).map completionItem)

/-! ## Messages -/

/-- The code of the refusal of a request that is not known. -/
def methodNotFound : Int := -32601

/-- Answer a request.  Nothing is sent if its parameters are malformed. -/
def request (s : Server) (id : RequestId) (method : Text) (params : Json) : List Reply :=
  if method = "textDocument/completion".toList then
    match Params.readCompletion params with
    | .ok p => [.result id (s.complete p)]
    | .error _ => []
  else if method = "shutdown".toList then [.result id .null]
  else [.failure id methodNotFound ("Method not found: ".toList ++ method)]

/-- Take note of a notification.  One that is not known or malformed changes
    nothing. -/
def notify (s : Server) (method : Text) (params : Json) : Server × List Reply :=
  let on {α : Type} (read : Json → Except ShapeError α) (act : α → Server × List Reply) :=
    match read params with
    | .ok p => act p
    | .error _ => (s, [])
  if method = "textDocument/didOpen".toList then on Params.readOpen s.didOpen
  else if method = "textDocument/didChange".toList then on Params.readChange s.didChange
  else if method = "textDocument/didSave".toList then on Params.readSave s.didSave
  else if method = "textDocument/didClose".toList then on Params.readClose s.didClose
  else (s, [])

/-- **Receiving.**  The server after a message, and what it sends. -/
def receive (s : Server) : Message → Server × List Reply
  | .request id method params => (s, s.request id method params)
  | .notification method params => s.notify method params
  | .response _ => (s, [])

end Server

/-- Is the message the order to exit? -/
def Message.isExit : Message → Bool
  | notification method _ => method = "exit".toList
  | _ => false

/-- A server that runs, or has run. -/
structure Session where
  server : Server
  running : Bool

namespace Session

/-- A session at its start. -/
def start (catalog : Catalog) : Session := { server := .start catalog, running := true }

/-- One message.  A session that has ended sends nothing. -/
def step (s : Session) (m : Message) : Session × List Reply :=
  if !s.running then (s, [])
  else if m.isExit then ({ s with running := false }, [])
  else
    let (server, replies) := s.server.receive m
    ({ s with server }, replies)

end Session

end Sigil
