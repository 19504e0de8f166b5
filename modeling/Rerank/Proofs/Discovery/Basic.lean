import Rerank.Proofs.Reply
import Rerank.Proofs.Run
import Rerank.Service.Discovery

/-!
# Runs of finding a service

What each stage of finding a service does, by the way in which it ends.  Listing models is one
request; the hosted service is found without any; a service of its own is found by its base url and,
unless the model is internal, by what it lists.
-/

namespace Rerank

variable [Url.Idna]

/-- The request for the models of the service under a base url. -/
def modelsRequest (base : Url) (apiKey : Option String) : Except Failure Request := do
  let url ← Endpoint.modelsUrl base
  let headers ← Headers.forKey apiKey
  return { url, headers, payload := none }

/-- The models in what came of a request. -/
def listed (outcome : Except Failure Response) : Except Failure (List Model) := do
  let reply ← outcome
  let reply ← reply.successful
  parseModels reply.body

theorem modelsRequest_eq_ok_iff {base : Url} {apiKey : Option String} {request : Request} :
    modelsRequest base apiKey = .ok request ↔
      Endpoint.modelsUrl base = .ok request.url ∧ Headers.forKey apiKey = .ok request.headers ∧
        request.payload = none := by
  obtain ⟨url, headers, payload⟩ := request
  rw [modelsRequest]
  cases Endpoint.modelsUrl base <;> cases Headers.forKey apiKey <;>
    simp [bind, Except.bind, pure, Except.pure, eq_comm]

omit [Url.Idna] in
theorem listed_eq_ok_iff {outcome : Except Failure Response} {models : List Model} :
    listed outcome = .ok models ↔
      ∃ reply, outcome = .ok reply ∧ 200 ≤ reply.status ∧ reply.status < 300 ∧
        parseModels reply.body = .ok models := by
  simp only [listed, except_bind_eq_ok_iff, Response.successful_eq_ok_iff]
  constructor
  · rintro ⟨reply, hreply, _, ⟨rfl, hlow, hhigh⟩, hparse⟩
    exact ⟨_, hreply, hlow, hhigh, hparse⟩
  · rintro ⟨reply, hreply, hlow, hhigh, hparse⟩
    exact ⟨reply, hreply, reply, ⟨rfl, hlow, hhigh⟩, hparse⟩

namespace Action

variable {σ : Type} (channel : Channel σ) (base : Url) (apiKey : Option String) (state : σ)

theorem run_fetchModels :
    (fetchModels channel base apiKey).run state =
      match modelsRequest base apiKey with
      | .error failure => ⟨.error failure, state, []⟩
      | .ok request =>
        { result := listed (channel.exchange request state).1
          state := (channel.exchange request state).2
          trace := [.request request, Channel.observed (channel.exchange request state).1] } := by
  rw [fetchModels, modelsRequest]
  cases Endpoint.modelsUrl base with
  | error failure => rfl
  | ok url =>
    cases Headers.forKey apiKey with
    | error failure => rfl
    | ok headers =>
      rw [run_ofExcept_ok_bind, run_ofExcept_ok_bind, run_send_bind]
      change _ = Run.mk (listed (channel.exchange { url, headers, payload := none } state).1) _ _
      generalize channel.exchange { url, headers, payload := none } state = exchanged
      obtain ⟨outcome, next⟩ := exchanged
      cases outcome with
      | error failure => rfl
      | ok reply =>
        change _ = Run.mk (reply.successful >>= fun success => parseModels success.body) _ _
        dsimp only
        cases reply.successful <;> rfl

/-- Models are listed by one request that gets a reply. -/
theorem fetchModels_eq_ok {channel : Channel σ} {base : Url} {apiKey : Option String} {state : σ}
    {models : List Model}
    (hlisted : ((fetchModels channel base apiKey).run state).result = .ok models) :
    ∃ request reply, modelsRequest base apiKey = .ok request ∧
      ((fetchModels channel base apiKey).run state).trace = [.request request, .reply reply] ∧
      listed (.ok reply) = .ok models := by
  rw [run_fetchModels] at hlisted ⊢
  cases hrequest : modelsRequest base apiKey with
  | error failure =>
    rw [hrequest] at hlisted
    contradiction
  | ok request =>
    rw [hrequest] at hlisted
    dsimp only at hlisted ⊢
    obtain ⟨reply, hreply, -⟩ := listed_eq_ok_iff.1 hlisted
    rw [hreply] at hlisted ⊢
    exact ⟨request, reply, rfl, rfl, hlisted⟩

end Action

namespace Service

/-- The service that a choice makes of settings. -/
def Choice.service (settings : Settings) (choice : Choice) : Service where
  model := choice.model
  baseUrl := choice.baseUrl
  deployment := choice.deployment
  truncation := settings.truncation
  topN := settings.topN
  maxBatchSize := settings.maxBatchSize

variable {σ : Type} (channel : Channel σ) {model apiKey : Option String} (state : σ)

section Hosted

variable {configured : String}

theorem run_findHosted_none (model : Option String) (configured : String) :
    (findHosted model none configured : Action σ Choice).run state =
      ⟨.error (.config .missingApiKey), state, []⟩ := rfl

theorem run_findHosted_some (model : Option String) (key configured : String) :
    (findHosted model (some key) configured : Action σ Choice).run state =
      let chosen := model.getD Catalog.defaultModel
      let endpoint := hostedEndpoint configured chosen
      { result := match Url.parse endpoint.1 with
          | .error reason => .error (.config (.invalidHostedEndpoint endpoint.1 reason))
          | .ok baseUrl => .ok { model := chosen, baseUrl, deployment := .hosted key }
        state
        trace := endpoint.2.map .log } := by
  rw [findHosted, Option.elim_some, Action.run_ofExcept_ok_bind]
  dsimp only
  rw [Action.run_log_bind]
  cases Url.parse (hostedEndpoint configured (model.getD Catalog.defaultModel)).1 <;>
    simp [Run.after]

end Hosted

section SelfHosted

variable {raw : String} {baseUrl : Url} {records : List LogRecord}

theorem run_findSelfHosted_of_error {failure : Failure}
    (hnormal : Endpoint.normalize raw = .error failure) :
    (findSelfHosted channel model apiKey raw).run state = ⟨.error failure, state, []⟩ := by
  rw [findSelfHosted, hnormal]
  rfl

/-- An internal model is not looked for. -/
theorem run_findSelfHosted_of_internal {internal : String}
    (hnormal : Endpoint.normalize raw = .ok (baseUrl, records))
    (hmodel : model.filter Catalog.isInternal = some internal) :
    (findSelfHosted channel model apiKey raw).run state =
      { result := .ok
          { model := internal, baseUrl, deployment := .selfHosted apiKey none }
        state
        trace := records.map .log } := by
  rw [findSelfHosted, hnormal, Action.run_ofExcept_ok_bind]
  dsimp only
  rw [Action.run_log_bind, hmodel]
  simp [Run.after]

/-- Any other model is chosen from what the service lists. -/
theorem run_findSelfHosted_of_listed
    (hnormal : Endpoint.normalize raw = .ok (baseUrl, records))
    (hmodel : model.filter Catalog.isInternal = none) :
    (findSelfHosted channel model apiKey raw).run state =
      let listing := (Action.fetchModels channel baseUrl apiKey).run state
      let chosen := listing.result.bind fun models =>
        ((chooseModel model models).mapError .config).map fun chosen => (chosen, models)
      { result := chosen.map fun (chosen, models) =>
          { model := chosen, baseUrl, deployment := .selfHosted apiKey (some models) }
        state := listing.state
        trace := records.map .log ++ listing.trace ++
          match chosen with
          | .ok (chosen, _) => if model.isNone then [.log (.modelChosen chosen)] else []
          | .error _ => [] } := by
  rw [findSelfHosted, hnormal, Action.run_ofExcept_ok_bind]
  dsimp only
  rw [Action.run_log_bind, hmodel]
  dsimp only
  rw [Action.run_bind]
  generalize (Action.fetchModels channel baseUrl apiKey).run state = listing
  obtain ⟨result, next, trace⟩ := listing
  cases result with
  | error failure => simp [Run.after, Except.bind, Except.map]
  | ok models =>
    dsimp only [Except.bind]
    cases chooseModel model models with
    | error fault => simp [Run.after, Except.map, Except.mapError]
    | ok chosen =>
      cases model <;> simp [Run.after, Except.map, Except.mapError]

end SelfHosted

/-- The choice that finding a service makes, once the batch size is known to be good. -/
def choose (channel : Channel σ) (settings : Settings) : Action σ Choice :=
  if Catalog.hosted.isEndpoint (baseUrlText settings) then
    findHosted (settings.model.bind Text.nonBlank) (settings.apiKey.bind Text.nonBlank)
      (baseUrlText settings)
  else
    findSelfHosted channel (settings.model.bind Text.nonBlank)
      (settings.apiKey.bind Text.nonBlank) (baseUrlText settings)

theorem run_discover_of_zero {settings : Settings} (hsize : settings.maxBatchSize = 0) :
    (discover channel settings).run state = ⟨.error (.config .zeroBatchSize), state, []⟩ := by
  rw [discover, if_pos hsize]
  rfl

theorem run_discover {settings : Settings} (hsize : settings.maxBatchSize ≠ 0) :
    (discover channel settings).run state =
      ((choose channel settings).run state).map (Choice.service settings) := by
  rw [discover, if_neg hsize, choose]
  dsimp only
  split
  · exact Action.run_bind_pure _ _ _
  · exact Action.run_bind_pure _ _ _

/-- A service that was found is what settings make of a choice, and its batches are not empty. -/
theorem discover_eq_ok {channel : Channel σ} {settings : Settings} {state : σ} {service : Service}
    (hfound : ((discover channel settings).run state).result = .ok service) :
    settings.maxBatchSize ≠ 0 ∧
      ∃ choice, ((choose channel settings).run state).result = .ok choice ∧
        choice.service settings = service := by
  by_cases hsize : settings.maxBatchSize = 0
  · rw [run_discover_of_zero channel state hsize] at hfound
    cases hfound
  rw [run_discover channel state hsize, Run.result_map] at hfound
  exact ⟨hsize, except_map_eq_ok_iff.1 hfound⟩

end Service

end Rerank
