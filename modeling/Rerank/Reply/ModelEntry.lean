import Rerank.Json.Shape
import Rerank.Model

/-!
# The models in a reply

A self-hosted service lists its models.  An entry names the model it was derived from either
directly or among its parameters, and the parameters win.
-/

namespace Rerank

open Json

/-- One model as a service lists it. -/
structure ModelEntry where
  id : String
  /-- The model it was derived from. -/
  root : Option String
  /-- The parameters, if any: the model they say it was derived from. -/
  params : Option (Option String)
deriving DecidableEq, Repr

namespace ModelEntry

/-- Reads parameters: an object, or an array of at most one element. -/
def paramsOfJson (value : Json) : Except Mismatch (Option String) :=
  match value with
  | .object _ => optionalMember asString value "root"
  | .array [] => .ok none
  | .array (root :: rest) => do
    let root ← asOptional asString root
    noMore (rest.length + 1) rest root
  | value => unexpected value (.record "ModelParams")

/-- Reads an entry: an object, or an array of one to three elements.  The members of an object are
read in the order of their keys. -/
def ofJson (value : Json) : Except Mismatch ModelEntry :=
  match value with
  | .object _ => do
    let id ← member? asString value "id"
    let params ← optionalMember paramsOfJson value "params"
    let root ← optionalMember asString value "root"
    let id ← require "id" id
    return { id, root, params }
  | .array [] => .error (.tooShort 0 "ModelEntry" 3)
  | .array [id] => do
    let id ← asString id
    return { id, root := none, params := none }
  | .array [id, root] => do
    let id ← asString id
    let root ← asOptional asString root
    return { id, root, params := none }
  | .array (id :: root :: params :: rest) => do
    let id ← asString id
    let root ← asOptional asString root
    let params ← asOptional paramsOfJson params
    noMore (rest.length + 3) rest { id, root, params }
  | value => unexpected value (.record "ModelEntry")

/-- The model of an entry. -/
def model (entry : ModelEntry) : Model where
  id := entry.id
  baseModel := entry.params.join.or entry.root
  endpoint := none

/-- Reads a list of entries as models. -/
def modelsOfJson (value : Json) : Except Mismatch (List Model) := do
  return (← (← asElements value).mapM ofJson).map model

end ModelEntry

end Rerank
