import Rerank.Failure
import Rerank.Json.Basic
import Rerank.Text.Utf8
import Rerank.Truncation

/-!
# Requests and replies

A request asks for the models of a service or has a batch of passages scored.  The key of the
caller, if there is one, goes into a header and nowhere else.
-/

namespace Rerank

/-- The headers of a request. -/
structure Headers where
  /-- The credentials, which are not to be shown. -/
  authorization : Option String
deriving DecidableEq, Repr

namespace Headers

/-- Whether a header may hold the character. -/
def isAllowed (c : Char) : Bool :=
  c == '\t' || (decide (0x20 ≤ c.toNat) && c != '\x7f')

/-- The headers of a request made with a key. -/
def forKey (key : Option String) : Except Failure Headers :=
  match key with
  | none => .ok ⟨none⟩
  | some key =>
    if key.toList.all isAllowed then .ok ⟨some ("Bearer " ++ key)⟩
    else .error (.config .unusableApiKey)

/-- The names and values of the headers. -/
def toList (headers : Headers) : List (String × String) :=
  ("accept", "application/json") ::
    match headers.authorization with
    | some credentials => [("authorization", credentials)]
    | none => []

/-- The names of the headers that are not to be shown. -/
def sensitive (headers : Headers) : List String :=
  if headers.authorization.isSome then ["authorization"] else []

end Headers

/-- A batch of passages to be scored against a query. -/
structure Payload where
  model : String
  truncation : Option Truncation
  query : String
  passages : List String
deriving DecidableEq, Repr

/-- The JSON text that is sent, as a value. -/
def Payload.toJson (payload : Payload) : Json :=
  let text (s : String) : Json := .object [("text", .string s)]
  let truncation :=
    match payload.truncation with
    | some mode => [("truncate", Json.string mode.name)]
    | none => []
  .object ([
    ("model", .string payload.model),
    ("passages", .array (payload.passages.map text)),
    ("query", text payload.query)] ++ truncation)

/-- A request.  Without a payload it only reads. -/
structure Request where
  url : Url
  headers : Headers
  payload : Option Payload
deriving DecidableEq, Repr

def Request.method (request : Request) : String :=
  if request.payload.isSome then "POST" else "GET"

structure Response where
  status : Nat
  body : List UInt8
deriving DecidableEq, Repr

namespace Response

def isSuccess (response : Response) : Bool :=
  decide (200 ≤ response.status) && decide (response.status < 300)

/-- The reply, unless its status is not a success. -/
def successful (response : Response) : Except Failure Response :=
  if response.isSuccess then .ok response
  else .error (.status response.status (Text.Utf8.decodeLossy response.body))

end Response

end Rerank
