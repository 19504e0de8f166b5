import Rerank.Proofs.HostedEndpoint
import Rerank.Proofs.Ranking.Soundness
import Rerank.Session

/-!
# Where requests may go

Whatever is asked of a service is asked at its ranking url or, if it is not the hosted one, at the
url of its models.  Both are where the settings say: at an endpoint of the catalog, or at the host
that was configured.  So the key of the caller is sent nowhere else.
-/

namespace Rerank

/-- The headers are the same for every request made with a key, and hold the key as it is. -/
theorem Headers.toList_of_forKey {key : Option String} {headers : Headers}
    (hheaders : forKey key = .ok headers) :
    headers.toList = ("accept", "application/json") ::
      (key.map fun key => ("authorization", "Bearer " ++ key)).toList := by
  cases key with
  | none =>
    cases hheaders
    rfl
  | some key =>
    rw [forKey] at hheaders
    split at hheaders
    · cases hheaders
      rfl
    · contradiction

/-- What may be asked of a service once it was found. -/
inductive Service.Asks [Url.Idna] (service : Service) (request : Request) : Prop where
  | models (hhosted : service.isHosted = false)
      (hrequest : modelsRequest service.baseUrl service.apiKey = .ok request)
  | ranking (hmethod : request.method = "POST") (hurl : service.rankingUrl = .ok request.url)
      (hheaders : Headers.forKey service.apiKey = .ok request.headers)

section Asked

variable [Url.Idna] {σ : Type} {channel : Channel σ} {client : Reranker} {state : σ}
  {request : Request}

theorem Action.modelsRequest_of_mem {base : Url} {apiKey : Option String}
    (hmem : request ∈ requestsOf ((fetchModels channel base apiKey).run state).trace) :
    modelsRequest base apiKey = .ok request := by
  rw [run_fetchModels] at hmem
  cases hrequest : modelsRequest base apiKey with
  | error failure =>
    rw [hrequest] at hmem
    simp [requestsOf] at hmem
  | ok asked =>
    rw [hrequest] at hmem
    dsimp only at hmem
    rw [requestsOf_exchange, List.mem_singleton] at hmem
    rw [hmem]

namespace Reranker

/-- All that a ranking call sends are requests to score batches. -/
theorem exists_post_of_rank {query : String} {texts : List String} {topN : Nat}
    (hmem : request ∈ requestsOf ((rank channel client query texts topN).run state).trace) :
    ∃ url headers batch, client.addressing = .ok (url, headers) ∧
      request = client.post url headers query batch := by
  obtain ⟨result, hrun, -⟩ | ⟨hquery, htexts, url, headers, haddressing⟩ :=
    rank_unsent_or_addressed channel client topN state query texts
  · rw [hrun, requestsOf_opening] at hmem
    exact absurd hmem List.not_mem_nil
  · obtain ⟨-, -, -, hrequests⟩ :=
      answered_of_rank channel client topN state hquery htexts haddressing
    rw [hrequests] at hmem
    obtain ⟨batch, -, rfl⟩ := List.mem_map.1 hmem
    exact ⟨url, headers, batch, haddressing, rfl⟩

theorem asks_of_rank {query : String} {texts : List String} {topN : Nat}
    (hmem : request ∈ requestsOf ((rank channel client query texts topN).run state).trace) :
    client.service.Asks request := by
  obtain ⟨url, headers, batch, haddressing, rfl⟩ := exists_post_of_rank hmem
  obtain ⟨hurl, hheaders⟩ := (addressing_eq_ok_iff client).1 haddressing
  exact .ranking rfl hurl hheaders

theorem asks_of_rerank {α : Type} [Passage α] {query : String} {passages : List α}
    (hmem : request ∈ requestsOf ((rerank channel client query passages).run state).trace) :
    client.service.Asks request := by
  rw [trace_rerank] at hmem
  exact asks_of_rank hmem

theorem asks_of_provide {query : String} {documents : List String} {topN : Option Nat}
    (hmem : request ∈ requestsOf ((provide channel client query documents topN).run state).trace) :
    client.service.Asks request := by
  rw [provide, Action.run_bind_pure, Run.trace_map] at hmem
  exact asks_of_rank hmem

/-- Models are asked for if they are not known already. -/
theorem asks_of_availableModels
    (hmem : request ∈ requestsOf ((availableModels channel client).run state).trace) :
    client.service.Asks request := by
  rw [availableModels] at hmem
  split at hmem
  · simp [requestsOf] at hmem
  · simp [requestsOf] at hmem
  · next apiKey hdeployment =>
    have hrequest := Action.modelsRequest_of_mem hmem
    apply Service.Asks.models
    · rw [Service.isHosted, hdeployment]
    · rw [Service.apiKey, hdeployment]
      exact hrequest

end Reranker

theorem Step.asks_of_perform (step : Step σ)
    (hmem : request ∈ requestsOf ((step.perform channel client).run state).trace) :
    client.service.Asks request := by
  cases step with
  | info => simp [perform, requestsOf] at hmem
  | rerank query passages =>
    cases passages with
    | texts passages =>
      rw [perform, Action.run_map] at hmem
      exact Reranker.asks_of_rerank hmem
    | chunks passages =>
      rw [perform, Action.run_map] at hmem
      exact Reranker.asks_of_rerank hmem
  | provide query documents topN =>
    rw [perform, Action.run_map] at hmem
    exact Reranker.asks_of_provide hmem
  | models =>
    rw [perform, Action.run_map] at hmem
    exact Reranker.asks_of_availableModels hmem
  | setSink sink => simp [perform, requestsOf] at hmem
  | change f => simp [perform, Action.run, requestsOf] at hmem

/-- A session asks of the service what a single step may. -/
theorem asks_of_session {steps : List (Step σ)} {run : Run σ Outcome}
    (hrun : run ∈ session channel client state steps) (hmem : request ∈ requestsOf run.trace) :
    client.service.Asks request := by
  induction steps generalizing client state with
  | nil => simp [session] at hrun
  | cons step rest ih =>
    rw [session] at hrun
    obtain rfl | hlater := List.mem_cons.1 hrun
    · exact step.asks_of_perform hmem
    · rw [← step.service_next client]
      exact ih hlater

end Asked

namespace Service

variable {σ : Type} {channel : Channel σ} {settings : Settings} {state : σ} {service : Service}
  {request : Request}

/-- The endpoint of a hosted model is one of the catalog, too. -/
theorem hasEndpoint_hostedEndpoint {configured : String}
    (hconfigured : Catalog.hosted.HasEndpoint configured) (model : String) :
    Catalog.hosted.HasEndpoint (hostedEndpoint configured model).1 := by
  rw [fst_hostedEndpoint]
  cases hknown : Catalog.hosted.get? model with
  | none => exact hconfigured
  | some known =>
    obtain ⟨hmem, -⟩ := Catalog.mem_of_get?_eq_some hknown
    obtain ⟨endpoint, hendpoint⟩ := Catalog.endpoint_of_mem_hosted hmem
    rw [Option.bind_some, hendpoint]
    exact ⟨known, hmem, endpoint, hendpoint, rfl⟩

variable [Url.Idna]

theorem modelsRequest_of_findSelfHosted {model apiKey : Option String} {raw : String}
    (hmem : request ∈ requestsOf ((findSelfHosted channel model apiKey raw).run state).trace) :
    ∃ base records, Endpoint.normalize raw = .ok (base, records) ∧
      modelsRequest base apiKey = .ok request := by
  cases hnormal : Endpoint.normalize raw with
  | error failure =>
    rw [run_findSelfHosted_of_error channel state hnormal] at hmem
    simp [requestsOf] at hmem
  | ok normal =>
    obtain ⟨base, records⟩ := normal
    refine ⟨base, records, rfl, ?_⟩
    cases hmodel : model.filter Catalog.isInternal with
    | some internal =>
      rw [run_findSelfHosted_of_internal channel state hnormal hmodel, requestsOf_logs] at hmem
      exact absurd hmem List.not_mem_nil
    | none =>
      rw [run_findSelfHosted_of_listed channel state hnormal hmodel] at hmem
      dsimp only at hmem
      rw [requestsOf_append, requestsOf_append, requestsOf_logs, List.nil_append,
        List.mem_append] at hmem
      obtain hlisting | hchosen := hmem
      · exact Action.modelsRequest_of_mem hlisting
      · split at hchosen
        · split at hchosen <;> simp [requestsOf] at hchosen
        · simp [requestsOf] at hchosen

/-- All that is asked while a service is looked for are the models under its base url. -/
theorem modelsRequest_of_discover
    (hmem : request ∈ requestsOf ((discover channel settings).run state).trace) :
    ¬ Catalog.hosted.HasEndpoint (baseUrlText settings) ∧
      ∃ base records, Endpoint.normalize (baseUrlText settings) = .ok (base, records) ∧
        modelsRequest base (settings.apiKey.bind Text.nonBlank) = .ok request := by
  by_cases hsize : settings.maxBatchSize = 0
  · rw [run_discover_of_zero channel state hsize] at hmem
    simp [requestsOf] at hmem
  by_cases hendpoint : Catalog.hosted.HasEndpoint (baseUrlText settings)
  · rw [run_discover_of_endpoint channel state hsize hendpoint, Run.trace_map,
      requestsOf_findHosted] at hmem
    exact absurd hmem List.not_mem_nil
  · rw [run_discover_of_no_endpoint channel state hsize hendpoint, Run.trace_map] at hmem
    exact ⟨hendpoint, modelsRequest_of_findSelfHosted hmem⟩

/-- How the key and the urls of a service come from settings. -/
structure Settled (settings : Settings) (service : Service) : Prop where
  apiKey_eq : service.apiKey = settings.apiKey.bind Text.nonBlank
  isHosted_iff : service.isHosted = true ↔ Catalog.hosted.HasEndpoint (baseUrlText settings)
  of_hosted : service.isHosted = true →
    ∃ endpoint, Catalog.hosted.HasEndpoint endpoint ∧ Url.parse endpoint = .ok service.baseUrl
  of_selfHosted : service.isHosted = false →
    ∃ records, Endpoint.normalize (baseUrlText settings) = .ok (service.baseUrl, records)

theorem settled_of_choose {choice : Choice}
    (hchoice : ((choose channel settings).run state).result = .ok choice) :
    Settled settings (choice.service settings) := by
  have hhosted := isEndpoint_of_choose hchoice
  rw [choose] at hchoice
  split at hchoice
  · next hendpoint =>
    obtain ⟨⟨key, hkey, hdeployment⟩, hparse⟩ := findHosted_eq_ok hchoice
    rw [hendpoint] at hhosted
    have hhas := Catalog.isEndpoint_iff.1 hendpoint
    refine ⟨?_, iff_of_true hhosted hhas, ?_, ?_⟩
    · rw [hkey, apiKey, Choice.service, hdeployment]
    · exact fun _ => ⟨_, hasEndpoint_hostedEndpoint hhas _, hparse⟩
    · intro hnot
      exact absurd (hhosted.symm.trans hnot) (by decide)
  · next hendpoint =>
    obtain ⟨hnormal, listing, hdeployment, -⟩ := findSelfHosted_eq_ok hchoice
    have hnot := Bool.eq_false_of_not_eq_true hendpoint
    rw [hnot] at hhosted
    refine ⟨?_, ?_, ?_, fun _ => hnormal⟩
    · rw [apiKey, Choice.service, hdeployment]
    · rw [hhosted, ← Catalog.isEndpoint_iff, hnot]
    · intro hyes
      exact absurd (hhosted.symm.trans hyes) (by decide)

theorem settled_of_discover
    (hfound : ((discover channel settings).run state).result = .ok service) :
    Settled settings service := by
  obtain ⟨-, choice, hchoice, rfl⟩ := discover_eq_ok hfound
  exact settled_of_choose hchoice

/-- Where a request made with settings may go, and what it carries. -/
structure Confined (settings : Settings) (request : Request) : Prop where
  /-- A key that is configured and not blank is sent as it is, and nothing else of the caller. -/
  headers_eq : request.headers.toList = ("accept", "application/json") ::
    ((settings.apiKey.bind Text.nonBlank).map fun key => ("authorization", "Bearer " ++ key)).toList
  of_endpoint : Catalog.hosted.HasEndpoint (baseUrlText settings) →
    Catalog.hosted.HasEndpoint request.url.text
  /-- The authority is user name, password, host and port. -/
  of_no_endpoint : ¬ Catalog.hosted.HasEndpoint (baseUrlText settings) →
    ∃ url, Url.parse (baseUrlText settings) = .ok url ∧
      request.url.scheme = url.scheme ∧ request.url.authority = url.authority

/-- The scheme of a base url of one's own is one of the two that requests are sent with. -/
def HttpConfigured (settings : Settings) : Prop :=
  ¬ Catalog.hosted.HasEndpoint (baseUrlText settings) →
    ∀ url, Url.parse (baseUrlText settings) = .ok url → url.scheme = "http" ∨ url.scheme = "https"

theorem HttpConfigured.special (hhttp : HttpConfigured settings)
    (hnone : ¬ Catalog.hosted.HasEndpoint (baseUrlText settings)) {base : Url}
    {records : List LogRecord}
    (hnormal : Endpoint.normalize (baseUrlText settings) = .ok (base, records)) :
    ∃ url port, Url.parse (baseUrlText settings) = .ok url ∧
      Url.SchemeKind.of url.scheme = .special port := by
  obtain ⟨url, -, hparse, -, -⟩ := Endpoint.normalize_eq_ok hnormal
  obtain hscheme | hscheme := hhttp hnone url hparse
  · exact ⟨url, 80, hparse, by rw [hscheme]; rfl⟩
  · exact ⟨url, 443, hparse, by rw [hscheme]; rfl⟩

/-- A request for models goes to the configured host, below the base url. -/
theorem confined_of_modelsRequest (hhttp : HttpConfigured settings)
    (hnone : ¬ Catalog.hosted.HasEndpoint (baseUrlText settings)) {base : Url}
    {records : List LogRecord}
    (hnormal : Endpoint.normalize (baseUrlText settings) = .ok (base, records))
    (hrequest : modelsRequest base (settings.apiKey.bind Text.nonBlank) = .ok request) :
    Confined settings request ∧ request.method = "GET" ∧
      Endpoint.IsBelow base "models" request.url := by
  obtain ⟨url, port, hparse, hscheme⟩ := hhttp.special hnone hnormal
  obtain ⟨found, hfound, hbelow, hsame⟩ := Endpoint.exists_modelsUrl hnormal hparse hscheme
  obtain ⟨hurl, hheaders, hpayload⟩ := modelsRequest_eq_ok_iff.1 hrequest
  obtain rfl : found = request.url := Except.ok.inj (hfound.symm.trans hurl)
  refine ⟨⟨Headers.toList_of_forKey hheaders, fun hhas => absurd hhas hnone, ?_⟩, ?_, hbelow⟩
  · exact fun _ => ⟨url, hparse, hsame⟩
  · rw [Request.method, hpayload]
    rfl

/-- A ranking url is an endpoint of the catalog, or at the configured host. -/
theorem Settled.confined_of_ranking (hsettled : Settled settings service)
    (hhttp : HttpConfigured settings) (hurl : service.rankingUrl = .ok request.url)
    (hheaders : Headers.forKey service.apiKey = .ok request.headers) :
    Confined settings request := by
  rw [hsettled.apiKey_eq] at hheaders
  rw [rankingUrl] at hurl
  split at hurl
  · next hhosted =>
    have hhas := hsettled.isHosted_iff.1 hhosted
    obtain ⟨endpoint, hendpoint, hparse⟩ := hsettled.of_hosted hhosted
    obtain ⟨url, hread, htext⟩ := Catalog.exists_parse_of_hasEndpoint hendpoint
    refine ⟨Headers.toList_of_forKey hheaders, ?_, fun hnone => absurd hhas hnone⟩
    intro _
    obtain rfl : url = service.baseUrl := Except.ok.inj (hread.symm.trans hparse)
    rw [← Except.ok.inj hurl, htext]
    exact hendpoint
  · next hhosted =>
    have hnone := mt hsettled.isHosted_iff.2 hhosted
    obtain ⟨records, hnormal⟩ := hsettled.of_selfHosted (Bool.eq_false_of_not_eq_true hhosted)
    obtain ⟨url, port, hparse, hscheme⟩ := hhttp.special hnone hnormal
    obtain ⟨found, hfound, -, hsame⟩ := Endpoint.exists_rankingUrl hnormal hparse hscheme
    obtain rfl : found = request.url := Except.ok.inj (hfound.symm.trans hurl)
    refine ⟨Headers.toList_of_forKey hheaders, fun hhas => absurd hhas hnone, ?_⟩
    exact fun _ => ⟨url, hparse, hsame⟩

/-- Whatever may be asked of the service that settings lead to is confined by them. -/
theorem Settled.confined_of_asks (hsettled : Settled settings service)
    (hhttp : HttpConfigured settings) (hasks : service.Asks request) :
    Confined settings request ∧
      (service.isHosted = false ∧ request.method = "GET" ∧
          Endpoint.IsBelow service.baseUrl "models" request.url ∨
        request.method = "POST" ∧ service.rankingUrl = .ok request.url) := by
  cases hasks with
  | models hhosted hrequest =>
    have hnone : ¬ Catalog.hosted.HasEndpoint (baseUrlText settings) := by
      rw [← hsettled.isHosted_iff, hhosted]
      exact Bool.false_ne_true
    obtain ⟨records, hnormal⟩ := hsettled.of_selfHosted hhosted
    rw [hsettled.apiKey_eq] at hrequest
    obtain ⟨hconfined, hget⟩ := confined_of_modelsRequest hhttp hnone hnormal hrequest
    exact ⟨hconfined, .inl ⟨hhosted, hget⟩⟩
  | ranking hmethod hurl hheaders =>
    exact ⟨hsettled.confined_of_ranking hhttp hurl hheaders, .inr ⟨hmethod, hurl⟩⟩

end Service

namespace Reranker

variable {σ : Type}

/-- Every request goes where the settings say and carries their key, whatever is answered.  While
connecting, also if that fails, only the models under a base url of one's own are asked for; later
also rankings, at the ranking url of the client. -/
theorem requests_confined [Url.Idna] (channel : Channel σ) {settings : Settings}
    (hhttp : Service.HttpConfigured settings) (state : σ) :
    let connecting := (connect channel settings).run state
    (∀ request ∈ requestsOf connecting.trace, Service.Confined settings request ∧
      ¬ Catalog.hosted.HasEndpoint (Service.baseUrlText settings) ∧ request.method = "GET" ∧
        ∃ base records,
          Endpoint.normalize (Service.baseUrlText settings) = .ok (base, records) ∧
            Endpoint.IsBelow base "models" request.url) ∧
    ∀ client, connecting.result = .ok client → ∀ (later : σ) (steps : List (Step σ)),
      ∀ run ∈ session channel client later steps, ∀ request ∈ requestsOf run.trace,
        Service.Confined settings request ∧
          (client.service.isHosted = false ∧ request.method = "GET" ∧
              Endpoint.IsBelow client.service.baseUrl "models" request.url ∨
            request.method = "POST" ∧ client.service.rankingUrl = .ok request.url) := by
  dsimp only
  rw [run_connect, Run.trace_map, Run.result_map]
  constructor
  · intro request hmem
    obtain ⟨hnone, base, records, hnormal, hrequest⟩ := Service.modelsRequest_of_discover hmem
    obtain ⟨hconfined, hget, hbelow⟩ :=
      Service.confined_of_modelsRequest hhttp hnone hnormal hrequest
    exact ⟨hconfined, hnone, hget, base, records, hnormal, hbelow⟩
  · intro client hclient later steps run hrun request hmem
    obtain ⟨service, hfound, rfl⟩ := except_map_eq_ok_iff.1 hclient
    exact (Service.settled_of_discover hfound).confined_of_asks hhttp (asks_of_session hrun hmem)

/-- A service of its own that lists its models and then ranks a passage. -/
theorem requests_confined_localSettings :
    let connecting := (connect Channel.scripted Service.localSettings).run [Service.listingReply]
    let client : Reranker := { service := Service.localService, sink := .logging }
    let replies := [jsonReply "\x7b\"rankings\": [[0, 1]]\x7d"]
    let runs := session Channel.scripted client replies [.rerank "q" (.texts ["a"])]
    connecting.result = .ok client ∧
      (requestsOf connecting.trace).map Request.method = ["GET"] ∧
      (∀ request ∈ requestsOf connecting.trace, Service.Confined Service.localSettings request) ∧
      runs.map (fun run => (requestsOf run.trace).map Request.method) = [["POST"]] ∧
      ∀ run ∈ runs, ∀ request ∈ requestsOf run.trace,
        Service.Confined Service.localSettings request := by
  intro connecting client replies runs
  have hclient := result_connect_localSettings
  have hhttp : Service.HttpConfigured Service.localSettings := by
    intro _ url hparse
    have hread : (Url.parse (Service.baseUrlText Service.localSettings)).map Url.scheme =
        .ok "http" := by
      decide +kernel
    rw [hparse] at hread
    exact .inl (Except.ok.inj hread)
  obtain ⟨hconnecting, hsession⟩ :=
    requests_confined Channel.scripted hhttp [Service.listingReply]
  refine ⟨hclient, by decide +kernel, fun request hmem => (hconnecting request hmem).1,
    by decide +kernel, ?_⟩
  intro run hrun request hmem
  exact (hsession client hclient _ _ run hrun request hmem).1

end Reranker

end Rerank
