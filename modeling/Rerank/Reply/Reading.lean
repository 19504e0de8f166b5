import Rerank.Failure
import Rerank.Json.Reader
import Rerank.Reply.ModelEntry
import Rerank.Reply.Rankings

/-!
# Reading replies

The body of a reply is JSON with an object at the top, one member of which holds what was asked for.
-/

namespace Rerank

/-- The member of a reply with the given key. -/
def replyMember (key : String) (body : List UInt8) : Except Failure Json :=
  match Json.parse body with
  | .error fault => .error (.malformed fault)
  | .ok value =>
    match value.get? key with
    | none => .error (.reply (.missingMember key))
    | some member => .ok member

/-- The rankings in a reply. -/
def parseRankings (body : List UInt8) : Except Failure (List Ranking) := do
  let member ← replyMember "rankings" body
  (Ranking.listOfJson member).mapError fun mismatch => .reply (.notRankings mismatch)

/-- The models in a reply. -/
def parseModels (body : List UInt8) : Except Failure (List Model) := do
  let member ← replyMember "data" body
  (ModelEntry.modelsOfJson member).mapError fun mismatch => .reply (.notModels mismatch)

end Rerank
