import Rerank.Json.Shape

/-!
# The rankings in a reply

The service answers a batch of passages with a list of rankings.  Each gives a passage, by its
index in the batch, the score of its relevance to the query.
-/

namespace Rerank

open Json

/-- The score of one passage of a batch. -/
structure Ranking where
  index : Nat
  score : Score
deriving DecidableEq, Repr

namespace Ranking

/-- Reads a ranking: an object, or the array of an index and a score. -/
def ofJson (value : Json) : Except Mismatch Ranking :=
  match value with
  | .object _ => do
    let index ← member? asIndex value "index"
    let score ← member? asScore value "logit"
    let index ← require "index" index
    let score ← require "logit" score
    return { index, score }
  | .array [] => .error (.tooShort 0 "Ranking" 2)
  | .array [index] => do
    let _ ← asIndex index
    .error (.tooShort 1 "Ranking" 2)
  | .array (index :: score :: rest) => do
    let index ← asIndex index
    let score ← asScore score
    noMore (rest.length + 2) rest { index, score }
  | value => unexpected value (.record "Ranking")

/-- Reads a list of rankings. -/
def listOfJson (value : Json) : Except Mismatch (List Ranking) := do
  (← asElements value).mapM ofJson

end Ranking

end Rerank
