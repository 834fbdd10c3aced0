import Sigil.Json.Record

/-! # Messages

    An editor sends requests, which are to be answered, notifications, which are
    not, and responses.  The server sends responses and notifications.

    * `Message`, `Message.ofJson?`: what an editor sends.
    * `Reply`, `Reply.toJson`: what the server sends. -/

namespace Sigil

/-- What a request is known by. -/
inductive RequestId where
  | number (n : Int)
  | name (s : Text)
deriving DecidableEq, Repr

namespace RequestId

/-- A request is known by an integer of 32 bits or by a string. -/
def ofJson? : Json → Option RequestId
  | .string s => some (.name s)
  | value => (value.toInt32).toOption.map .number

/-- The JSON form of an identifier. -/
def toJson : RequestId → Json
  | number n => .integer n
  | name s => .string s

end RequestId

/-- What an editor sends. -/
inductive Message where
  | request (id : RequestId) (method : Text) (params : Json)
  | notification (method : Text) (params : Json)
  | response (id : RequestId)
deriving Repr

namespace Message

/-- The method of a value that has one. -/
def method? (value : Json) : Option Text :=
  match value.get? "method".toList with
  | some (.string method) => some method
  | _ => none

/-- The error in a response, if there is one, has a code and a message. -/
def hasProperError (value : Json) : Bool :=
  match value.get? "error".toList with
  | none | some .null => true
  | some error =>
    let codeField : Field Int := .required "code" Json.toInt32
    let messageField : Field Text := .required "message" Json.toText
    let dataField : Field (Option Json) := .nullable "data" Json.toValue
    let result : Except ShapeError Unit := do
      let r ← Record.read "ResponseError"
        [codeField.checker, messageField.checker, dataField.checker] error
      let _ ← r.get codeField
      let _ ← r.get messageField
      let _ ← r.get dataField
    result.toBool

/-- The message in a JSON value: a request if it has an identifier and a method, a
    response if it has only an identifier, a notification if it has only a method. -/
def ofJson? (value : Json) : Option Message :=
  let id? := (value.get? "id".toList).bind RequestId.ofJson?
  let params := (value.get? "params".toList).getD .null
  match id?, method? value with
  | some id, some method => some (.request id method params)
  | some id, none => if hasProperError value then some (.response id) else none
  | none, some method => some (.notification method params)
  | none, none => none

end Message

/-- What the server sends. -/
inductive Reply where
  /-- The answer to a request. -/
  | result (id : RequestId) (value : Json)
  /-- The refusal of a request. -/
  | failure (id : RequestId) (code : Int) (message : Text)
  | notification (method : Text) (params : Json)
deriving Repr

namespace Reply

/-- The members of the JSON form of a reply. -/
def toMembers : Reply → List (Text × Json)
  | result id value => [("id".toList, id.toJson), ("result".toList, value)]
  | failure id code message =>
    [("id".toList, id.toJson),
      ("error".toList, Json.ofMembers
        [("code".toList, .integer code), ("message".toList, .string message)])]
  | notification method params =>
    [("method".toList, .string method), ("params".toList, params)]

/-- The JSON form of a reply. -/
def toJson (r : Reply) : Json :=
  Json.ofMembers r.toMembers

/-- The JSON form of a reply as it is sent, with the version of the protocol. -/
def toEnvelope (r : Reply) : Json :=
  Json.ofMembers (("jsonrpc".toList, .string "2.0".toList) :: r.toMembers)

end Reply

end Sigil
