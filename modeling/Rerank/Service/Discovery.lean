import Rerank.Service.Basic
import Rerank.Settings

/-!
# Finding the service

The base url decides who hosts the service: an endpoint of the catalog is the hosted one.  Every
other service has to list the configured model or, if none is configured, one that can be chosen;
internal models are not looked for.
-/

namespace Rerank.Service

variable [Url.Idna] {σ : Type}

/-- The base url that settings give, without white space around it. -/
def baseUrlText (settings : Settings) : String :=
  ((settings.baseUrl.map Text.trim).filter (!·.isEmpty)).getD Catalog.defaultEndpoint

/-- The endpoint of a hosted model, with the log records about it: the one that the catalog has for
the model, if any, and the configured one otherwise. -/
def hostedEndpoint (configured model : String) : String × List LogRecord :=
  if Catalog.isInternal model then (configured, [])
  else
    match Catalog.hosted.get? model with
    | some known => (known.endpoint.getD configured, [])
    | none => (configured, [.unverifiedModel model])

/-- What finding a service decides. -/
structure Choice where
  model : String
  baseUrl : Url
  deployment : Deployment

def findHosted (model apiKey : Option String) (configured : String) : Action σ Choice := do
  let apiKey ← Action.ofExcept (apiKey.elim (.error (.config .missingApiKey)) .ok)
  let model := model.getD Catalog.defaultModel
  let (endpoint, records) := hostedEndpoint configured model
  Action.log records
  match Url.parse endpoint with
  | .error reason => Action.fail (.config (.invalidHostedEndpoint endpoint reason))
  | .ok baseUrl => return { model, baseUrl, deployment := .hosted apiKey }

/-- The model to use among those listed: the configured one, or the first that is not derived from
another. -/
def chooseModel (configured : Option String) (listing : List Model) : Except ConfigFault String :=
  match configured with
  | some model => if listing.any (·.id == model) then .ok model else .error (.modelNotListed model)
  | none =>
    match listing.find? Model.isBase with
    | some model => .ok model.id
    | none => .error .noModelListed

/-- Finds a service under a base url of its own. -/
def findSelfHosted (channel : Channel σ) (model apiKey : Option String) (raw : String) :
    Action σ Choice := do
  let (baseUrl, records) ← Action.ofExcept (Endpoint.normalize raw)
  Action.log records
  match model.filter Catalog.isInternal with
  | some model => return { model, baseUrl, deployment := .selfHosted apiKey none }
  | none =>
    let listing ← Action.fetchModels channel baseUrl apiKey
    let chosen ← Action.ofExcept ((chooseModel model listing).mapError .config)
    Action.log (if model.isNone then [.modelChosen chosen] else [])
    return { model := chosen, baseUrl, deployment := .selfHosted apiKey (some listing) }

/-- Finds the service that settings describe. -/
def discover (channel : Channel σ) (settings : Settings) : Action σ Service := do
  if settings.maxBatchSize = 0 then
    Action.fail (.config .zeroBatchSize)
  else
    let raw := baseUrlText settings
    let model := settings.model.bind Text.nonBlank
    let apiKey := settings.apiKey.bind Text.nonBlank
    let choice ←
      if Catalog.hosted.isEndpoint raw then findHosted model apiKey raw
      else findSelfHosted channel model apiKey raw
    return {
      model := choice.model
      baseUrl := choice.baseUrl
      deployment := choice.deployment
      truncation := settings.truncation
      topN := settings.topN
      maxBatchSize := settings.maxBatchSize }

end Rerank.Service
