import Rerank.Action
import Rerank.Catalog
import Rerank.Endpoint
import Rerank.Reply.Reading

/-!
# Services

A service is what a client talks to: the hosted one, whose endpoints are in the catalog and which
always needs a key, or one that somebody hosts under a base url.
-/

namespace Rerank

/-- Who hosts a service. -/
inductive Deployment where
  | hosted (apiKey : String)
  /-- The models are kept if they had to be listed before. -/
  | selfHosted (apiKey : Option String) (listing : Option (List Model))
deriving DecidableEq, Repr

/-- A service with everything that a call needs to know. -/
structure Service where
  model : String
  baseUrl : Url
  deployment : Deployment
  truncation : Option Truncation
  topN : Nat
  maxBatchSize : Nat
deriving DecidableEq, Repr

variable [Url.Idna]

namespace Service

def isHosted (service : Service) : Bool :=
  match service.deployment with
  | .hosted _ => true
  | .selfHosted _ _ => false

def apiKey (service : Service) : Option String :=
  match service.deployment with
  | .hosted key => some key
  | .selfHosted key _ => key

/-- The models that were listed when the service was found. -/
def listing (service : Service) : Option (List Model) :=
  match service.deployment with
  | .hosted _ => none
  | .selfHosted _ listing => listing

/-- Where passages are scored: at the base url itself by the hosted service, and below it by any
other. -/
def rankingUrl (service : Service) : Except Failure Url :=
  if service.isHosted then .ok service.baseUrl else Endpoint.rankingUrl service.baseUrl

end Service

namespace Action

variable {σ : Type}

/-- Asks the service under a base url for its models. -/
def fetchModels (channel : Channel σ) (base : Url) (apiKey : Option String) :
    Action σ (List Model) := do
  let url ← ofExcept (Endpoint.modelsUrl base)
  let headers ← ofExcept (Headers.forKey apiKey)
  let reply ← channel.send { url, headers, payload := none }
  let reply ← ofExcept reply.successful
  ofExcept (parseModels reply.body)

end Action

end Rerank
