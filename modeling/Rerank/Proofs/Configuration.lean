import Rerank.Proofs.Discovery.Found
import Rerank.Proofs.Endpoint
import Rerank.Proofs.Ranking.Failures
import Rerank.Proofs.Ranking.Provider
import Rerank.Session

/-!
# Problems of the configuration

What is wrong with a base url is found out while connecting: every url that is derived from it
later can be built.  The key is tried out while connecting only if models are listed.  A key that no
header can hold is the only problem of the configuration that a later call can have, and every call
of such a client that ranks something has it.
-/

namespace Rerank

theorem Headers.eq_unusableApiKey_of_forKey {key : Option String} {failure : Failure}
    (hheaders : forKey key = .error failure) : failure = .config .unusableApiKey := by
  cases key with
  | none => contradiction
  | some key =>
    rw [forKey] at hheaders
    split at hheaders
    · contradiction
    · exact (Except.error.inj hheaders).symm

/-- With an url, what is made of it and of headers fails as the headers do. -/
theorem Headers.forKey_of_bind {α : Type} {url : Url} {key : Option String} {failure : Failure}
    {f : Url → Headers → α}
    (hmade : (do
      let url ← Except.ok url
      let headers ← forKey key
      return f url headers) = .error failure) : forKey key = .error failure := by
  change (forKey key >>= fun headers => Pure.pure (f url headers)) = _ at hmade
  obtain hheaders | ⟨headers, -, hnothing⟩ := except_bind_eq_error_iff.1 hmade
  · exact hheaders
  · contradiction

/-- A reply that cannot be read as models is a problem of the service. -/
theorem category_of_parseModels {body : List UInt8} {failure : Failure}
    (hparse : parseModels body = .error failure) : failure.category = .remote := by
  obtain ⟨fault, -, rfl⟩ | ⟨value, -, ⟨-, rfl⟩ | ⟨member, mismatch, -, -, rfl⟩⟩ :=
    replyMember_bind_eq_error_iff.1 hparse
  · rfl
  · rfl
  · rfl

theorem category_of_listed {outcome : Except Failure Response} {failure : Failure}
    (houtcome : ∀ cause, outcome = .error cause → cause.category = .remote)
    (hlisted : listed outcome = .error failure) : failure.category = .remote := by
  simp only [listed, except_bind_eq_error_iff, Response.successful_eq_error_iff] at hlisted
  obtain hfailed | ⟨reply, -, hreply⟩ := hlisted
  · exact houtcome failure hfailed
  obtain ⟨-, rfl⟩ | ⟨success, -, hparse⟩ := hreply
  · rfl
  · exact category_of_parseModels hparse

/-- What is settled about a service when it is found. -/
structure Service.Built [Url.Idna] (service : Service) : Prop where
  rankingUrl : ∃ url, service.rankingUrl = .ok url
  modelsUrl : service.isHosted = false → ∃ url, Endpoint.modelsUrl service.baseUrl = .ok url
  /-- Models can be listed only with a key that can be used. -/
  listed : service.listing ≠ none → ∃ headers, Headers.forKey service.apiKey = .ok headers

theorem Service.built_of_discover [Url.Idna] {σ : Type} {channel : Channel σ} {settings : Settings}
    {state : σ} {service : Service}
    (hfound : ((discover channel settings).run state).result = .ok service) : service.Built := by
  obtain ⟨-, choice, hchoice, rfl⟩ := discover_eq_ok hfound
  rw [choose] at hchoice
  split at hchoice
  -- The hosted service ranks at its base url, which is read, and lists no models.
  · obtain ⟨⟨key, -, hdeployment⟩, -⟩ := findHosted_eq_ok hchoice
    have hhosted : (choice.service settings).isHosted = true := by
      rw [isHosted, Choice.service, hdeployment]
    refine ⟨⟨choice.baseUrl, ?_⟩, fun hnot => ?_, fun hlisting => ?_⟩
    · rw [rankingUrl, if_pos hhosted]
      rfl
    · exact absurd (hnot.symm.trans hhosted) Bool.false_ne_true
    · rw [listing, Choice.service, hdeployment] at hlisting
      exact absurd rfl hlisting
  · obtain ⟨⟨records, hnormal⟩, models, hdeployment, hknown⟩ := findSelfHosted_eq_ok hchoice
    have hhosted : (choice.service settings).isHosted = false := by
      rw [isHosted, Choice.service, hdeployment]
    -- A service of one's own has urls derived from its base url, which was made normal for that.
    refine ⟨?_, fun _ => Endpoint.exists_modelsUrl_of_normalize hnormal, fun hlisting => ?_⟩
    · rw [rankingUrl, if_neg (by simp [hhosted])]
      exact Endpoint.exists_rankingUrl_of_normalize hnormal
    · rw [listing, Choice.service, hdeployment] at hlisting
      rw [apiKey, Choice.service, hdeployment]
      cases hknown with
      | internal _ _ _ => exact absurd rfl hlisting
      | listed _ _ _ hheaders _ _ _ _ => exact ⟨_, hheaders⟩

section Calls

variable [Url.Idna] {σ : Type} {channel : Channel σ} {client : Reranker} {state : σ}
  {failure : Failure} (hchannel : channel.FailsRemotely) (hconfig : failure.category = .config)

include hchannel hconfig

/-- To list models with an url can go wrong for the configuration by the key only. -/
theorem Action.forKey_of_fetchModels {base : Url} {apiKey : Option String}
    (hurl : ∃ url, Endpoint.modelsUrl base = .ok url)
    (hfailure : ((fetchModels channel base apiKey).run state).result = .error failure) :
    Headers.forKey apiKey = .error failure := by
  obtain ⟨url, hurl⟩ := hurl
  rw [run_fetchModels] at hfailure
  split at hfailure
  · next cause hrequest =>
    cases hfailure
    rw [modelsRequest, hurl] at hrequest
    exact Headers.forKey_of_bind hrequest
  · next request _ =>
    have hremote := category_of_listed (hchannel request state) hfailure
    rw [hconfig] at hremote
    exact absurd hremote (by decide)

namespace Reranker

theorem forKey_of_rank (hurl : ∃ url, client.service.rankingUrl = .ok url) {query : String}
    {texts : List String} {topN : Nat}
    (hfailure : ((rank channel client query texts topN).run state).result = .error failure) :
    Headers.forKey client.service.apiKey = .error failure := by
  obtain ⟨url, hurl⟩ := hurl
  cases hquery : Text.isBlank query with
  | true =>
    rw [run_rank_of_blank channel client topN state hquery] at hfailure
    cases hfailure
    contradiction
  | false =>
    by_cases htexts : texts = []
    · rw [htexts, run_rank_nil channel client topN state hquery] at hfailure
      contradiction
    cases haddressing : client.addressing with
    | error cause =>
      rw [run_rank_of_unaddressed channel client topN state hquery htexts haddressing] at hfailure
      cases hfailure
      rw [addressing, hurl] at haddressing
      exact Headers.forKey_of_bind haddressing
    | ok addressing =>
      have hremote := remote_of_addressed hquery htexts haddressing hchannel hfailure
      rw [hconfig] at hremote
      contradiction

theorem forKey_of_rerank {α : Type} [Passage α] (hsize : 0 < client.service.maxBatchSize)
    (hurl : ∃ url, client.service.rankingUrl = .ok url) {query : String} {passages : List α}
    (hfailure : ((rerank channel client query passages).run state).result = .error failure) :
    Headers.forKey client.service.apiKey = .error failure :=
  forKey_of_rank hchannel hconfig hurl
    ((result_rerank_eq_error_iff hsize).1 hfailure)

theorem forKey_of_provide (hurl : ∃ url, client.service.rankingUrl = .ok url) {query : String}
    {documents : List String} {topN : Option Nat}
    (hfailure : ((provide channel client query documents topN).run state).result =
      .error failure) :
    Headers.forKey client.service.apiKey = .error failure := by
  rw [run_provide] at hfailure
  exact forKey_of_rank hchannel hconfig hurl (except_map_eq_error_iff.1 hfailure)

theorem forKey_of_availableModels
    (hurl : client.service.isHosted = false →
      ∃ url, Endpoint.modelsUrl client.service.baseUrl = .ok url)
    (hfailure : ((availableModels channel client).run state).result = .error failure) :
    Headers.forKey client.service.apiKey = .error failure := by
  rw [availableModels] at hfailure
  split at hfailure
  · contradiction
  · contradiction
  · next apiKey hdeployment =>
    have hhosted : client.service.isHosted = false := by rw [Service.isHosted, hdeployment]
    rw [Service.apiKey, hdeployment]
    exact Action.forKey_of_fetchModels hchannel hconfig (hurl hhosted) hfailure

end Reranker

/-- A step has no problem of the configuration but that its key cannot be used. -/
theorem Step.forKey_of_perform (hsize : 0 < client.service.maxBatchSize)
    (hbuilt : client.service.Built) (step : Step σ)
    (hfailure : ((step.perform channel client).run state).result = .error failure) :
    Headers.forKey client.service.apiKey = .error failure := by
  cases step with
  | info => contradiction
  | rerank query passages =>
    cases passages with
    | texts passages =>
      rw [perform, Action.run_map] at hfailure
      exact Reranker.forKey_of_rerank hchannel hconfig hsize hbuilt.rankingUrl
        (except_map_eq_error_iff.1 hfailure)
    | chunks passages =>
      rw [perform, Action.run_map] at hfailure
      exact Reranker.forKey_of_rerank hchannel hconfig hsize hbuilt.rankingUrl
        (except_map_eq_error_iff.1 hfailure)
  | provide query documents topN =>
    rw [perform, Action.run_map] at hfailure
    exact Reranker.forKey_of_provide hchannel hconfig hbuilt.rankingUrl
      (except_map_eq_error_iff.1 hfailure)
  | models =>
    rw [perform, Action.run_map] at hfailure
    exact Reranker.forKey_of_availableModels hchannel hconfig hbuilt.modelsUrl
      (except_map_eq_error_iff.1 hfailure)
  | setSink sink => contradiction
  | change f => contradiction

theorem forKey_of_session (hsize : 0 < client.service.maxBatchSize) (hbuilt : client.service.Built)
    {steps : List (Step σ)} {run : Run σ Outcome}
    (hrun : run ∈ session channel client state steps) (hfailure : run.result = .error failure) :
    Headers.forKey client.service.apiKey = .error failure := by
  -- The sink of the client and the state change from step to step, its service does not.
  induction steps generalizing client state with
  | nil => contradiction
  | cons step rest ih =>
    rw [session] at hrun
    obtain rfl | hlater := List.mem_cons.1 hrun
    · exact step.forKey_of_perform hchannel hconfig hsize hbuilt hfailure
    · rw [← step.service_next client] at hsize hbuilt ⊢
      exact ih hsize hbuilt hlater

end Calls

namespace Reranker

variable {σ : Type}

/-- A ranking call that has something to rank fails as the headers do. -/
theorem result_provide_of_forKey [Url.Idna] {channel : Channel σ} {client : Reranker}
    {failure : Failure} (hurl : ∃ url, client.service.rankingUrl = .ok url)
    (hheaders : Headers.forKey client.service.apiKey = .error failure) {query : String}
    (hquery : Text.isBlank query = false) {documents : List String} (hdocuments : documents ≠ [])
    (topN : Option Nat) (state : σ) :
    ((provide channel client query documents topN).run state).result = .error failure := by
  have haddressing : client.addressing = .error failure := by
    obtain ⟨url, hurl⟩ := hurl
    rw [addressing, hurl, hheaders]
    rfl
  rw [run_provide, run_rank_of_unaddressed channel client _ state hquery hdocuments haddressing]
  rfl

/-- Problems of the configuration are found while connecting, but for one.  The urls that a client
needs can be built, and its key can be used if it was used to list the models.  If the channel fails
with remote failures only, a call of any session has no problem of the configuration but that its
key cannot be used, and this only if no models were listed; then every call that has something to
rank has it. -/
theorem config_failures_of_connect [Url.Idna] {channel : Channel σ}
    (hchannel : channel.FailsRemotely) {settings : Settings} {state : σ} {client : Reranker}
    (hclient : ((connect channel settings).run state).result = .ok client) :
    client.service.Built ∧
    (∀ (later : σ) (steps : List (Step σ)), ∀ run ∈ session channel client later steps,
      ∀ failure, run.result = .error failure → failure.category = .config →
        failure = .config .unusableApiKey ∧ client.service.listing = none ∧
          Headers.forKey client.service.apiKey = .error failure) ∧
    ∀ failure, Headers.forKey client.service.apiKey = .error failure →
      ∀ (later : σ) query documents topN, Text.isBlank query = false → documents ≠ [] →
        ((provide channel client query documents topN).run later).result = .error failure := by
  have hsize : 0 < client.service.maxBatchSize :=
    Connected.maxBatchSize_pos ⟨σ, channel, settings, state, client, hclient, rfl⟩
  have hbuilt : client.service.Built := by
    rw [run_connect] at hclient
    obtain ⟨service, hfound, rfl⟩ := except_map_eq_ok_iff.1 hclient
    exact Service.built_of_discover hfound
  refine ⟨hbuilt, ?_, ?_⟩
  · intro later steps run hrun failure hfailure hconfig
    have hheaders := forKey_of_session hchannel hconfig hsize hbuilt hrun hfailure
    refine ⟨Headers.eq_unusableApiKey_of_forKey hheaders, ?_, hheaders⟩
    by_contra hlisting
    obtain ⟨headers, hmade⟩ := hbuilt.listed hlisting
    rw [hheaders] at hmade
    contradiction
  · intro failure hheaders later query documents topN hquery hdocuments
    exact result_provide_of_forKey hbuilt.rankingUrl hheaders hquery hdocuments topN later

/-- A client of a service of its own, which listed its models with its key, is never told that it
was configured wrongly. -/
theorem config_failures_of_connect_localSettings :
    let client : Reranker := { service := Service.localService, sink := .logging }
    ((connect Channel.scripted Service.localSettings).run [Service.listingReply]).result =
        .ok client ∧
      client.service.listing ≠ none ∧
      ∀ replies steps, ∀ run ∈ session Channel.scripted client replies steps,
        ∀ failure, run.result = .error failure → failure.category ≠ .config := by
  intro client
  have hclient := result_connect_localSettings
  have hlisting : client.service.listing ≠ none := nofun
  obtain ⟨-, honly, -⟩ := config_failures_of_connect Channel.failsRemotely_scripted hclient
  refine ⟨hclient, hlisting, fun replies steps run hrun failure hfailure hconfig => ?_⟩
  exact hlisting (honly replies steps run hrun failure hfailure hconfig).2.1

/-- Settings for the hosted service with a key that ends in a line break. -/
def brokenKeySettings : Settings where
  apiKey := some "k\n"

/-- The client that `brokenKeySettings` lead to. -/
def brokenKeyClient : Reranker where
  service := {
    hostedInPairs.service with
    deployment := .hosted "k\n"
    topN := 5
    maxBatchSize := 64 }
  sink := .logging

/-- A key that cannot be used is not found out while connecting, but by the first call. -/
theorem unusableApiKey_of_brokenKeySettings :
    let runs := session Channel.scripted brokenKeyClient [] [.rerank "q" (.texts ["a"])]
    ((connect Channel.scripted brokenKeySettings).run []).result = .ok brokenKeyClient ∧
      runs.map Run.result = [.error (.config .unusableApiKey)] ∧
      (Failure.config .unusableApiKey).category = .config := by
  have hfound : ((Service.discover Channel.scripted brokenKeySettings).run []).result =
      .ok brokenKeyClient.service := by
    decide +kernel
  refine ⟨?_, by decide +kernel, rfl⟩
  rw [run_connect, Run.result_map, hfound]
  rfl

end Reranker

end Rerank
