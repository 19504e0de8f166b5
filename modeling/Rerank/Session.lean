import Rerank.Reranker
import Rerank.Url.KnownNames

/-!
# Sessions

A session is a sequence of steps on one client.  A step that fails does not end the session.
-/

namespace Rerank

/-- The passages of one call: plain texts, or chunks of documents. -/
inductive Passages where
  | texts (passages : List String)
  | chunks (passages : List Chunk)
deriving DecidableEq, Repr

/-- One step of a session over a channel with states `σ`. -/
inductive Step (σ : Type) where
  /-- What the client knows of its service. -/
  | info
  | rerank (query : String) (passages : Passages)
  | provide (query : String) (documents : List String) (topN : Option Nat)
  | models
  /-- From here on the events go to another sink. -/
  | setSink (sink : EventSink)
  /-- The state of the channel changes by itself. -/
  | change (f : σ → σ)

inductive Outcome where
  | service (service : Service)
  | texts (ranked : List (Scored String))
  | chunks (ranked : List (Scored Chunk))
  | answer (answer : Answer)
  | models (models : List Model)
  | done
deriving DecidableEq, Repr

namespace Step

variable {σ : Type}

def next (client : Reranker) : Step σ → Reranker
  | setSink sink => { client with sink }
  | _ => client

/-- A step does not change the service. -/
theorem service_next (step : Step σ) (client : Reranker) :
    (step.next client).service = client.service := by
  cases step <;> rfl

variable [Url.Idna]

def perform (channel : Channel σ) (client : Reranker) : Step σ → Action σ Outcome
  | info => return .service client.service
  | rerank query (.texts passages) => .texts <$> client.rerank channel query passages
  | rerank query (.chunks passages) => .chunks <$> client.rerank channel query passages
  | provide query documents topN => .answer <$> client.provide channel query documents topN
  | models => .models <$> client.availableModels channel
  | setSink _ => return .done
  | change f => fun state => ⟨.ok .done, f state, []⟩

end Step

/-- Does steps one after another, from a state of the channel, and gives what came of each. -/
def session [Url.Idna] {σ : Type} (channel : Channel σ) (client : Reranker) (state : σ) :
    List (Step σ) → List (Run σ Outcome)
  | [] => []
  | step :: rest =>
    let run := step.perform channel client state
    run :: session channel (step.next client) run.state rest

end Rerank
