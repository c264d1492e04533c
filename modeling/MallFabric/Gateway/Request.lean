import MallFabric.Grpc.Metadata
import MallFabric.Json.Reader
import MallFabric.Message.Catalogue
import MallFabric.Message.Document
import MallFabric.Message.Query

/-!
# Requests to the HTTP edge

A message is bound from the JSON body of a post, and from the query string of
every other request.
-/

namespace MallFabric

open Message (MessageType QueryFault)

/-- A request to the HTTP edge. -/
structure HttpRequest where
  verb : String
  /-- Path and query string. -/
  target : String
  headers : Headers
  body : String
deriving Repr, Inhabited

/-- Why a request does not bind. -/
inductive BindFault where
  | bodyTooLong
  /-- A body that is not JSON or not the message's. -/
  | json
  | query (cause : QueryFault)
deriving DecidableEq, Repr

namespace BindFault

def message : BindFault -> String
  | bodyTooLong => "failed to read body: length limit exceeded"
  | json => "<json>"
  | query cause => "Failed to deserialize query string: " ++ cause.reason

end BindFault

namespace HttpRequest

/-- The target without scheme and authority. -/
def localTarget (request : HttpRequest) : List Char :=
  let chars := request.target.toList.takeWhile (· ≠ '#')
  if chars.head? = some '/' then chars
  else
    let scheme := chars.takeWhile fun char => char ≠ ':' && char ≠ '/' && char ≠ '?'
    let afterScheme := chars.drop scheme.length
    if afterScheme.take 3 = [':', '/', '/'] then
      (afterScheme.drop 3).dropWhile fun char => char ≠ '/' && char ≠ '?'
    else chars

/-- The path of the target. -/
def path (request : HttpRequest) : String :=
  let chars := request.localTarget.takeWhile (· ≠ '?')
  if chars = [] then "/" else String.ofList chars

/-- The query string of the target. -/
def query (request : HttpRequest) : String :=
  String.ofList ((request.localTarget.dropWhile (· ≠ '?')).drop 1)

/-- A text without blanks and tabs at its ends. -/
def trimBlanks (chars : List Char) : List Char :=
  let isBlank := fun char : Char => char = ' ' || char = '\t'
  ((chars.dropWhile isBlank).reverse.dropWhile isBlank).reverse

/-- Whether the body is declared as JSON, parameters aside. -/
def declaresJson (request : HttpRequest) : Bool :=
  match request.headers.text? "content-type" with
  | none => false
  | some value =>
      let kind := trimBlanks (value.toList.takeWhile (· ≠ ';'))
      kind.map Char.toLower = "application/json".toList

/-- The longest body that is read, in bytes. -/
def greatestBody : Nat := 1 <<< 20

/-- Bind a message of the given type. -/
def bind (request : HttpRequest) (type : MessageType) : Except BindFault type.Value :=
  if request.verb = "POST" ∧ request.declaresJson then
    if greatestBody < request.body.utf8ByteSize then .error .bodyTooLong
    else match (Json.parse request.body).bind type.shape.ofJson? with
      | some message => .ok message
      | none => .error .json
  else (type.shape.ofQuery request.query).mapError BindFault.query

/-- The id that a request carries, or a generated one. -/
def requestId (request : HttpRequest) : RequestId :=
  match request.headers.text? Grpc.requestIdHeader with
  | some id => .given id
  | none => .generated

end HttpRequest

end MallFabric
