import Sigil.Server.Basic

/-! # Connections

    A connection starts with a handshake.  The editor asks to initialize, the server
    tells what it can do, and the editor confirms.  Only then does a session start.

    * `Connection`: how far a connection has come.
    * `Connection.step`: one message.
    * `Connection.wanted?`: the catalog that a message makes the server read. -/

namespace Sigil

/-! ## Values in messages to people -/

mutual

/-- A value written out for people to read. -/
def Json.inspect : Json → Text
  | .null => "Null".toList
  | .bool b => "Bool(".toList ++ (Json.bool b).render ++ [')']
  | .integer n => "Number(".toList ++ (Json.integer n).render ++ [')']
  | .double bits => "Number(".toList ++ (Json.double bits).render ++ [')']
  | .string s => "String(".toList ++ Text.quoted s ++ [')']
  | .array elements => "Array [".toList ++ Json.inspectElements elements ++ [']']
  | .object members => "Object \x7b".toList ++ Json.inspectMembers members ++ ['\x7d']

/-- Elements written out, with commas between them. -/
def Json.inspectElements : List Json → Text
  | [] => []
  | [element] => element.inspect
  | element :: rest => element.inspect ++ ", ".toList ++ Json.inspectElements rest

/-- Members written out, with commas between them. -/
def Json.inspectMembers : List (Text × Json) → Text
  | [] => []
  | [(name, value)] => Text.quoted name ++ ": ".toList ++ value.inspect
  | (name, value) :: rest =>
    Text.quoted name ++ ": ".toList ++ value.inspect ++ ", ".toList ++ Json.inspectMembers rest

end

/-- An identifier written out. -/
def RequestId.inspect : RequestId → Text
  | number n => "RequestId(I32(".toList ++ Json.integerText n ++ "))".toList
  | name s => "RequestId(String(".toList ++ Text.quoted s ++ "))".toList

/-! ## Initialization -/

namespace Initialization

def clientNameField : Field Text := .required "name" Json.toText

def clientVersionField : Field (Option Text) := .nullable "version" Json.toText

/-- The name and the version of an editor. -/
def readClient (value : Json) : Except ShapeError Unit := do
  let r ← Record.read "ClientInfo" [clientNameField.checker, clientVersionField.checker] value
  let _ ← r.get clientNameField
  let _ ← r.get clientVersionField

/-- A folder that an editor works in. -/
def readFolder (value : Json) : Except ShapeError Unit := do
  let r ← Record.read "WorkspaceFolder" [Params.uriField.checker, clientNameField.checker] value
  let _ ← r.get Params.uriField
  let _ ← r.get clientNameField

/-- How much the server should say about what it does. -/
def readTrace (value : Json) : Except ShapeError Unit := do
  let t ← value.toText
  if ["off".toList, "messages".toList, "verbose".toList].contains t then return ()
  else .error (.invalidValue value.summary "a trace value".toList)

/-- What an editor can do.  It makes no difference here. -/
def readCapabilities : Json → Except ShapeError Unit
  | .object _ => .ok ()
  | other => other.mismatch "struct ClientCapabilities"

def processIdField : Field (Option Nat) := .nullable "processId" Json.toUInt32

def rootPathField : Field (Option Text) := .nullable "rootPath" Json.toText

def rootUriField : Field (Option Text) := .nullable "rootUri" Json.toUri

def optionsField : Field (Option Json) := .nullable "initializationOptions" Json.toValue

def capabilitiesField : Field Unit := .required "capabilities" readCapabilities

def traceField : Field (Option Unit) := .nullable "trace" readTrace

def foldersField : Field (Option (List Unit)) :=
  .nullable "workspaceFolders" (Json.toList readFolder)

def clientField : Field (Option Unit) := .nullable "clientInfo" readClient

def localeField : Field (Option Text) := .nullable "locale" Json.toText

/-- The options in what an editor sends to initialize.  It is written as an object
    only. -/
def readOptions (value : Json) : Except ShapeError (Option Json) := do
  match value with
  | .object _ =>
    let r ← Record.read "InitializeParams"
      [processIdField.checker, rootPathField.checker, rootUriField.checker, optionsField.checker,
        capabilitiesField.checker, traceField.checker, foldersField.checker, clientField.checker,
        localeField.checker, Params.workDoneTokenField.checker] value
    let _ ← r.get capabilitiesField
    r.get optionsField
  | other => other.mismatch "struct InitializeParams"

def catalogField : Field (Option Text) := .nullable "catalog" Json.toText

/-- The path of the catalog that the options name.  Malformed options name none. -/
def catalogPath? (options : Json) : Option Text :=
  let result : Except ShapeError (Option Text) := do
    let r ← Record.read "Options" [catalogField.checker] options
    r.get catalogField
  match result with
  | .ok path => path
  | .error _ => none

/-- What the server can do: it takes whole texts, and gives suggestions after some
    characters. -/
def capabilities : Json :=
  Json.ofMembers
    [("textDocumentSync".toList, .integer 1),
      ("completionProvider".toList, Json.ofMembers
        [("triggerCharacters".toList,
          .array (["$", "[", "(", "\x7b", ":", ";", " "].map fun s => .string s.toList))])]

end Initialization

/-! ## Connections -/

/-- How far a connection has come. -/
inductive Connection where
  /-- The editor has not asked to initialize. -/
  | waiting (catalog : Catalog)
  /-- The server has told what it can do, and waits for the editor to confirm. -/
  | greeted (catalog : Catalog) (params : Json)
  | established (session : Session)
  /-- The handshake has failed. -/
  | failed

namespace Connection

/-- The code of the refusal of a request before initialization. -/
def notInitialized : Int := -32002

/-- The catalog at the path `path?`, or the one given if there is no path or the
    path holds none. -/
def chooseCatalog (read : Text → Except ReadFailure Text) (catalog : Catalog)
    (path? : Option Text) : Catalog :=
  match path? with
  | none => catalog
  | some path => (Catalog.ofFile (read path)).toOption.getD catalog

/-- The session that starts when the editor confirms. -/
def establish (read : Text → Except ReadFailure Text) (catalog : Catalog) (params : Json) :
    Connection :=
  match Initialization.readOptions params with
  | .ok options =>
    .established (.start (chooseCatalog read catalog (options.bind Initialization.catalogPath?)))
  | .error _ => .failed

/-- A request before initialization is refused. -/
def refuse (id : RequestId) (method : Text) (params : Json) : Reply :=
  .failure id notInitialized
    ("expected initialize request, got Request \x7b id: ".toList ++ id.inspect
      ++ ", method: ".toList ++ Text.quoted method ++ ", params: ".toList ++ params.inspect
      ++ " \x7d".toList)

/-- **Step.**  One message. -/
def step (read : Text → Except ReadFailure Text) (c : Connection) (m : Message) :
    Connection × List Reply :=
  match c with
  | waiting catalog =>
    match m with
    | .request id method params =>
      if method = "initialize".toList then
        (.greeted catalog params,
          [.result id (Json.ofMembers [("capabilities".toList, Initialization.capabilities)])])
      else (c, [refuse id method params])
    | .notification _ _ => if m.isExit then (.failed, []) else (c, [])
    | .response _ => (.failed, [])
  | greeted catalog params =>
    match m with
    | .notification method _ =>
      if method = "initialized".toList then (establish read catalog params, []) else (.failed, [])
    | _ => (.failed, [])
  | established session =>
    let (session, replies) := session.step m
    (.established session, replies)
  | failed => (.failed, [])

/-- The path of the catalog that the next step with this message reads. -/
def wanted? (c : Connection) (m : Message) : Option Text :=
  match c, m with
  | greeted _ params, .notification _ _ =>
    match Initialization.readOptions params with
    | .ok options => options.bind Initialization.catalogPath?
    | .error _ => none
  | _, _ => none

/-- Is there anything to wait for? -/
def isOpen : Connection → Bool
  | waiting _ | greeted _ _ => true
  | established session => session.running
  | failed => false

/-- Is the end of the connection the end of a session, and not a failed handshake? -/
def isComplete : Connection → Bool
  | established _ => true
  | _ => false

/-- A whole connection: where it ends, and all that is sent. -/
def run (read : Text → Except ReadFailure Text) (c : Connection) :
    List Message → Connection × List Reply
  | [] => (c, [])
  | m :: rest =>
    let (next, replies) := c.step read m
    let (last, more) := next.run read rest
    (last, replies ++ more)

end Connection

end Sigil
