import Sigil.Json.Record
import Sigil.Server.Position
import Sigil.Server.Uri

/-! # Parameters

    What the messages about documents carry. -/

namespace Sigil

/-- A document's identifier. -/
def Json.toUri (value : Json) : Except ShapeError Text := do
  let t ← value.toText
  if isUriReference t then return t
  else .error (.invalidValue value.summary "a URI reference".toList)

/-- A number or a string, by which progress is known. -/
def Json.toToken (value : Json) : Except ShapeError Unit := do
  match value with
  | .string _ => return ()
  | other =>
    let _ ← other.toInt32

namespace Position

def lineField : Field Nat := .required "line" Json.toUInt32

def characterField : Field Nat := .required "character" Json.toUInt32

/-- A position from its JSON form. -/
def read (value : Json) : Except ShapeError Position := do
  let r ← Record.read "Position" [lineField.checker, characterField.checker] value
  return { line := ← r.get lineField, character := ← r.get characterField }

/-- The JSON form of a position. -/
def toJson (p : Position) : Json :=
  Json.ofMembers
    [(lineField.name, .integer p.line), (characterField.name, .integer p.character)]

end Position

namespace Params

/-- The field that says which document is meant. -/
def documentField {α : Type} (read : Json → Except ShapeError α) : Field α :=
  .required "textDocument" read

def uriField : Field Text := .required "uri" Json.toUri

def languageField : Field Text := .required "languageId" Json.toText

def versionField : Field Int := .required "version" Json.toInt32

def textField : Field Text := .required "text" Json.toText

/-- The identifier in a reference to a document. -/
def readIdentifier (value : Json) : Except ShapeError Text := do
  let r ← Record.read "TextDocumentIdentifier" [uriField.checker] value
  r.get uriField

/-! ## Opening -/

/-- A document that is opened. -/
structure Open where
  uri : Text
  language : Text
  text : Text
deriving DecidableEq, Repr

/-- A document with its text. -/
def readItem (value : Json) : Except ShapeError Open := do
  let r ← Record.read "TextDocumentItem"
    [uriField.checker, languageField.checker, versionField.checker, textField.checker] value
  let uri ← r.get uriField
  let language ← r.get languageField
  let _ ← r.get versionField
  return { uri, language, text := ← r.get textField }

/-- What comes with the opening of a document. -/
def readOpen (value : Json) : Except ShapeError Open := do
  let field := documentField readItem
  let r ← Record.read "DidOpenTextDocumentParams" [field.checker] value
  r.get field

/-! ## Changes -/

/-- A document that is changed, with its whole text after each change. -/
structure Change where
  uri : Text
  texts : List Text
deriving DecidableEq, Repr

def startField : Field Position := .required "start" Position.read

def endField : Field Position := .required "end" Position.read

/-- A range of positions. -/
def readRange (value : Json) : Except ShapeError (Position × Position) := do
  let r ← Record.read "Range" [startField.checker, endField.checker] value
  return (← r.get startField, ← r.get endField)

def rangeField : Field (Option (Position × Position)) := .nullable "range" readRange

def rangeLengthField : Field (Option Nat) := .nullable "rangeLength" Json.toUInt32

/-- The text of a change. -/
def readContentChange (value : Json) : Except ShapeError Text := do
  let r ← Record.read "TextDocumentContentChangeEvent"
    [rangeField.checker, rangeLengthField.checker, textField.checker] value
  let _ ← r.get rangeField
  let _ ← r.get rangeLengthField
  r.get textField

/-- The identifier of a document of some version. -/
def readVersioned (value : Json) : Except ShapeError Text := do
  let r ← Record.read "VersionedTextDocumentIdentifier"
    [uriField.checker, versionField.checker] value
  let uri ← r.get uriField
  let _ ← r.get versionField
  return uri

def changesField : Field (List Text) := .required "contentChanges" (Json.toList readContentChange)

/-- What comes with a change of a document. -/
def readChange (value : Json) : Except ShapeError Change := do
  let field := documentField readVersioned
  let r ← Record.read "DidChangeTextDocumentParams" [field.checker, changesField.checker] value
  return { uri := ← r.get field, texts := ← r.get changesField }

/-! ## Saving and closing -/

/-- A document that is saved, perhaps with its text. -/
structure Save where
  uri : Text
  text : Option Text
deriving DecidableEq, Repr

def savedTextField : Field (Option Text) := .nullable "text" Json.toText

/-- What comes with the saving of a document. -/
def readSave (value : Json) : Except ShapeError Save := do
  let field := documentField readIdentifier
  let r ← Record.read "DidSaveTextDocumentParams" [field.checker, savedTextField.checker] value
  return { uri := ← r.get field, text := ← r.get savedTextField }

/-- What comes with the closing of a document: its identifier. -/
def readClose (value : Json) : Except ShapeError Text := do
  let field := documentField readIdentifier
  let r ← Record.read "DidCloseTextDocumentParams" [field.checker] value
  r.get field

/-! ## Completion -/

/-- A place where suggestions are wanted. -/
structure CompletionRequest where
  uri : Text
  position : Position
deriving DecidableEq, Repr

def positionField : Field Position := .required "position" Position.read

def workDoneTokenField : Field (Option Unit) := .nullable "workDoneToken" Json.toToken

def partialResultTokenField : Field (Option Unit) := .nullable "partialResultToken" Json.toToken

def triggerKindField : Field Int := .required "triggerKind" Json.toInt32

def triggerCharacterField : Field (Option Text) := .nullable "triggerCharacter" Json.toText

/-- How the request came about. -/
def readTrigger (value : Json) : Except ShapeError Unit := do
  let r ← Record.read "CompletionContext"
    [triggerKindField.checker, triggerCharacterField.checker] value
  let _ ← r.get triggerKindField
  let _ ← r.get triggerCharacterField

def triggerField : Field (Option Unit) := .nullable "context" readTrigger

/-- What comes with a request for suggestions.  It is written as an object only. -/
def readCompletion (value : Json) : Except ShapeError CompletionRequest := do
  match value with
  | .object _ =>
    let field := documentField readIdentifier
    let r ← Record.read "CompletionParams"
      [field.checker, positionField.checker, workDoneTokenField.checker,
        partialResultTokenField.checker, triggerField.checker] value
    return { uri := ← r.get field, position := ← r.get positionField }
  | other => other.mismatch "struct CompletionParams"

end Params

end Sigil
