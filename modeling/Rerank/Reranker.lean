import Rerank.Batch
import Rerank.Passage
import Rerank.Service.Discovery

/-!
# Reranking

A client ranks passages by their relevance to a query.  It has the passages scored batch after batch
and stops at the first batch that fails.
-/

namespace Rerank

/-- A client of a service, with a sink for its events. -/
structure Reranker where
  service : Service
  sink : EventSink

/-- A passage of the caller with its score. -/
structure Scored (α : Type) where
  /-- The position of the passage among those given. -/
  index : Nat
  passage : α
  score : Score
deriving DecidableEq, Repr

/-- What a provider of rankings answers. -/
structure Answer where
  provider : String
  model : String
  items : List Item
deriving DecidableEq, Repr

namespace Reranker

variable [Url.Idna] {σ α : Type}

/-- The client of the service that settings describe. -/
def connect (channel : Channel σ) (settings : Settings) : Action σ Reranker := do
  return { service := ← Service.discover channel settings, sink := .logging }

def payload (client : Reranker) (query : String) (batch : Batch) : Payload where
  model := client.service.model
  truncation := client.service.truncation
  query := query
  passages := batch.texts

/-- Has a batch scored and gives its items, the first `topN` of them. -/
def scoreBatch (channel : Channel σ) (client : Reranker) (url : Url) (headers : Headers)
    (query : String) (topN : Nat) (batch : Batch) : Action σ (List Item) := do
  let reply ← channel.send { url, headers, payload := some (client.payload query batch) }
  let reply ← Action.ofExcept reply.successful
  let rankings ← Action.ofExcept (parseRankings reply.body)
  Action.log [.batchScored batch.number batch.texts.length rankings.length]
  let rankings ← Action.ofExcept (batch.checked rankings)
  return (rankings.take topN).map batch.item

/-- Has batches scored one after another and gives the items of all of them. -/
def scoreBatches (channel : Channel σ) (client : Reranker) (url : Url) (headers : Headers)
    (query : String) (topN : Nat) : List Batch → Action σ (List Item)
  | [] => return []
  | batch :: rest => do
    let items ← scoreBatch channel client url headers query topN batch
    let more ← scoreBatches channel client url headers query topN rest
    return items ++ more

/-- Ranks texts.  Without texts there is nothing to ask for. -/
def rank (channel : Channel σ) (client : Reranker) (query : String) (texts : List String)
    (topN : Nat) : Action σ (List Item) := do
  Action.announce client.sink (.started query texts topN client.service.model)
  if Text.isBlank query then
    Action.fail .emptyQuery
  else if texts.isEmpty then
    return []
  else
    let url ← Action.ofExcept client.service.rankingUrl
    let headers ← Action.ofExcept (Headers.forKey client.service.apiKey)
    let batches := Batch.split client.service.maxBatchSize texts
    let items ← scoreBatches channel client url headers query topN batches
    let results := merge texts.length client.service.maxBatchSize topN items
    Action.announce client.sink (.ended client.service.model results)
    return results

/-- The passage that an item refers to. -/
def passageOf (passages : List α) (item : Item) : Except Failure (Scored α) :=
  match passages[item.index]? with
  | some passage => .ok { index := item.index, passage, score := item.score }
  | none => .error (.reply (.indexOutOfRange item.index))

/-- Ranks passages and gives the best of them with their scores. -/
def rerank [Passage α] (channel : Channel σ) (client : Reranker) (query : String)
    (passages : List α) : Action σ (List (Scored α)) := do
  let items ← rank channel client query (passages.map Passage.content) client.service.topN
  Action.ofExcept (items.mapM (passageOf passages))

def providerName : String := "nvidia"

/-- Ranks documents as a provider does: items refer to the documents by their positions, and the
number of items may be given with the call. -/
def provide (channel : Channel σ) (client : Reranker) (query : String) (documents : List String)
    (topN : Option Nat) : Action σ Answer := do
  let items ← rank channel client query documents (topN.getD client.service.topN)
  return { provider := providerName, model := client.service.model, items }

/-- The models that the service offers: the catalog of the hosted one, the models that were listed
when the service was found, or else those that it lists now. -/
def availableModels (channel : Channel σ) (client : Reranker) : Action σ (List Model) :=
  match client.service.deployment with
  | .hosted _ => return Catalog.hosted
  | .selfHosted _ (some listing) => return listing
  | .selfHosted apiKey none => Action.fetchModels channel client.service.baseUrl apiKey

end Reranker

end Rerank
