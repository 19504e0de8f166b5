import Rerank.Proofs.Discovery.Found
import Rerank.Proofs.Ranking.Basic
import Rerank.Proofs.Secrecy.Alike

/-!
# The key stays in the header

Nothing that is decided, reported, logged or announced depends on which key is configured, as long
as it can be used at all: over a channel that does not look at the headers, sessions with different
keys are alike from connecting to the last step.
-/

namespace Rerank

/-- The same deployment, with one key and with the other. -/
inductive Deployment.Alike (key other : String) : Deployment → Deployment → Prop where
  | hosted : Alike key other (.hosted key) (.hosted other)
  | selfHosted (listing : Option (List Model)) :
    Alike key other (.selfHosted (some key) listing) (.selfHosted (some other) listing)

/-- The same service, with one key and with the other. -/
structure Service.Alike (key other : String) (first second : Service) : Prop where
  model : first.model = second.model
  baseUrl : first.baseUrl = second.baseUrl
  deployment : first.deployment.Alike key other second.deployment
  truncation : first.truncation = second.truncation
  topN : first.topN = second.topN
  maxBatchSize : first.maxBatchSize = second.maxBatchSize

/-- The same client, with one key and with the other. -/
structure Reranker.Alike (key other : String) (first second : Reranker) : Prop where
  service : first.service.Alike key other second.service
  sink : first.sink = second.sink

/-- The same outcome, or the same service with one key and with the other. -/
def Outcome.Alike (key other : String) : Outcome → Outcome → Prop
  | .service first, .service second => first.Alike key other second
  | first, second => first = second

variable {σ : Type} {channel : Channel σ} {key other : String}

namespace Action

theorem alike_forKey (hkey : Headers.Usable key) (hother : Headers.Usable other) :
    Alike key other (fun headers headers' => headers = .bearer key ∧ headers' = .bearer other)
      (ofExcept (Headers.forKey (some key)) : Action σ Headers)
      (ofExcept (Headers.forKey (some other))) := by
  rw [hkey.forKey, hother.forKey]
  exact alike_pure ⟨rfl, rfl⟩

theorem alike_fetchModels [Url.Idna] (hchannel : channel.IgnoresHeaders) (hkey : Headers.Usable key)
    (hother : Headers.Usable other) (base : Url) :
    Alike key other Eq (fetchModels channel base (some key))
      (fetchModels channel base (some other)) := by
  apply (alike_ofExcept (.refl _)).bind
  rintro url _ rfl
  apply (alike_forKey hkey hother).bind
  rintro _ _ ⟨rfl, rfl⟩
  apply (alike_send hchannel url none).bind
  rintro reply _ rfl
  apply (alike_ofExcept (.refl _)).bind
  rintro success _ rfl
  exact alike_ofExcept (.refl _)

end Action

namespace Service

/-- The same choice, with one key and with the other. -/
structure Choice.Alike (key other : String) (first second : Choice) : Prop where
  model : first.model = second.model
  baseUrl : first.baseUrl = second.baseUrl
  deployment : first.deployment.Alike key other second.deployment

theorem Alike.apiKey_eq {first second : Service} (hservice : first.Alike key other second) :
    first.apiKey = some key ∧ second.apiKey = some other := by
  have hdeployment := hservice.deployment
  rw [apiKey, apiKey]
  generalize first.deployment = deployment at hdeployment ⊢
  generalize second.deployment = deployment' at hdeployment ⊢
  cases hdeployment <;> exact ⟨rfl, rfl⟩

variable [Url.Idna]

theorem alike_findHosted (model : Option String) (configured : String) :
    Action.Alike key other (Choice.Alike key other)
      (findHosted model (some key) configured : Action σ Choice)
      (findHosted model (some other) configured) := by
  intro state
  rw [run_findHosted_some, run_findHosted_some]
  dsimp only
  generalize hostedEndpoint configured (model.getD Catalog.defaultModel) = endpoint
  refine ⟨?_, rfl, (Action.alike_log endpoint.2 state).trace⟩
  cases Url.parse endpoint.1 with
  | error reason => exact .error _
  | ok baseUrl => exact .ok ⟨rfl, rfl, .hosted⟩

theorem alike_findSelfHosted (hchannel : channel.IgnoresHeaders) (hkey : Headers.Usable key)
    (hother : Headers.Usable other) (model : Option String) (raw : String) :
    Action.Alike key other (Choice.Alike key other)
      (findSelfHosted channel model (some key) raw)
      (findSelfHosted channel model (some other) raw) := by
  apply (Action.alike_ofExcept (.refl _)).bind
  rintro ⟨baseUrl, records⟩ _ rfl
  apply (Action.alike_log records).bind
  intro _ _ _
  cases model.filter Catalog.isInternal with
  | some internal => exact Action.alike_pure ⟨rfl, rfl, .selfHosted none⟩
  | none =>
    apply (Action.alike_fetchModels hchannel hkey hother baseUrl).bind
    rintro listing _ rfl
    apply (Action.alike_ofExcept (.refl _)).bind
    rintro chosen _ rfl
    apply (Action.alike_log _).bind
    intro _ _ _
    exact Action.alike_pure ⟨rfl, rfl, .selfHosted (some listing)⟩

theorem alike_discover (hchannel : channel.IgnoresHeaders) (hkey : Headers.Usable key)
    (hother : Headers.Usable other) (settings : Settings) :
    Action.Alike key other (Service.Alike key other)
      (discover channel { settings with apiKey := some key })
      (discover channel { settings with apiKey := some other }) := by
  intro state
  by_cases hsize : settings.maxBatchSize = 0
  · have hzero (apiKey : Option String) : { settings with apiKey }.maxBatchSize = 0 := hsize
    rw [run_discover_of_zero channel state (hzero _), run_discover_of_zero channel state (hzero _)]
    exact ⟨.error _, rfl, .nil⟩
  have hnonzero (apiKey : Option String) : { settings with apiKey }.maxBatchSize ≠ 0 := hsize
  rw [run_discover channel state (hnonzero _), run_discover channel state (hnonzero _)]
  have hchoose : Action.Alike key other (Choice.Alike key other)
      (choose channel { settings with apiKey := some key })
      (choose channel { settings with apiKey := some other }) := by
    simp only [choose, Option.bind_some, Text.nonBlank, hkey.nonBlank, hother.nonBlank]
    change Action.Alike key other _
      (if Catalog.hosted.isEndpoint (baseUrlText settings) then _ else _)
      (if Catalog.hosted.isEndpoint (baseUrlText settings) then _ else _)
    split
    · exact alike_findHosted _ _
    · exact alike_findSelfHosted hchannel hkey hother _ _
  apply (hchoose state).map
  intro choice choice' hchoice
  exact ⟨hchoice.model, hchoice.baseUrl, hchoice.deployment, rfl, rfl, rfl⟩

namespace Alike

variable {first second : Service}

theorem rankingUrl_eq (hservice : first.Alike key other second) :
    first.rankingUrl = second.rankingUrl := by
  have hdeployment := hservice.deployment
  rw [rankingUrl, rankingUrl, isHosted, isHosted, hservice.baseUrl]
  generalize first.deployment = deployment at hdeployment ⊢
  generalize second.deployment = deployment' at hdeployment ⊢
  cases hdeployment <;> rfl

end Alike

end Service

namespace Reranker

variable {first second : Reranker}

theorem alike_scoreBatch (hchannel : channel.IgnoresHeaders)
    (hclient : first.Alike key other second) (url : Url) (query : String) (topN : Nat)
    (batch : Batch) :
    Action.Alike key other Eq (scoreBatch channel first url (.bearer key) query topN batch)
      (scoreBatch channel second url (.bearer other) query topN batch) := by
  have hpayload : first.payload query batch = second.payload query batch := by
    rw [payload, payload, hclient.service.model, hclient.service.truncation]
  rw [scoreBatch, scoreBatch, hpayload]
  apply (Action.alike_send hchannel url _).bind
  rintro reply _ rfl
  apply (Action.alike_ofExcept (.refl _)).bind
  rintro success _ rfl
  apply (Action.alike_ofExcept (.refl _)).bind
  rintro rankings _ rfl
  apply (Action.alike_log _).bind
  intro _ _ _
  apply (Action.alike_ofExcept (.refl _)).bind
  rintro checked _ rfl
  exact Action.alike_pure rfl

theorem alike_scoreBatches (hchannel : channel.IgnoresHeaders)
    (hclient : first.Alike key other second) (url : Url) (query : String) (topN : Nat)
    (batches : List Batch) :
    Action.Alike key other Eq (scoreBatches channel first url (.bearer key) query topN batches)
      (scoreBatches channel second url (.bearer other) query topN batches) := by
  induction batches with
  | nil => exact Action.alike_pure rfl
  | cons batch rest ih =>
    apply (alike_scoreBatch hchannel hclient url query topN batch).bind
    rintro items _ rfl
    apply ih.bind
    rintro more _ rfl
    exact Action.alike_pure rfl

variable [Url.Idna]

theorem alike_connect (hchannel : channel.IgnoresHeaders) (hkey : Headers.Usable key)
    (hother : Headers.Usable other) (settings : Settings) :
    Action.Alike key other (Alike key other)
      (connect channel { settings with apiKey := some key })
      (connect channel { settings with apiKey := some other }) := by
  apply (Service.alike_discover hchannel hkey hother settings).bind
  intro service service' hservice
  exact Action.alike_pure ⟨hservice, rfl⟩

theorem alike_rank (hchannel : channel.IgnoresHeaders) (hkey : Headers.Usable key)
    (hother : Headers.Usable other) (hclient : first.Alike key other second) (query : String)
    (texts : List String) (topN : Nat) :
    Action.Alike key other Eq (rank channel first query texts topN)
      (rank channel second query texts topN) := by
  rw [rank, rank, hclient.sink, hclient.service.model]
  apply (Action.alike_announce _ _).bind
  intro _ _ _
  split
  · exact Action.alike_fail _
  split
  · exact Action.alike_pure rfl
  rw [hclient.service.rankingUrl_eq]
  apply (Action.alike_ofExcept (.refl _)).bind
  rintro url _ rfl
  rw [hclient.service.apiKey_eq.1, hclient.service.apiKey_eq.2]
  apply (Action.alike_forKey hkey hother).bind
  rintro _ _ ⟨rfl, rfl⟩
  rw [hclient.service.maxBatchSize]
  apply (alike_scoreBatches hchannel hclient url query topN _).bind
  rintro items _ rfl
  apply (Action.alike_announce _ _).bind
  intro _ _ _
  exact Action.alike_pure rfl

theorem alike_rerank {α : Type} [Passage α] (hchannel : channel.IgnoresHeaders)
    (hkey : Headers.Usable key) (hother : Headers.Usable other)
    (hclient : first.Alike key other second) (query : String) (passages : List α) :
    Action.Alike key other Eq (rerank channel first query passages)
      (rerank channel second query passages) := by
  rw [rerank, rerank, hclient.service.topN]
  apply (alike_rank hchannel hkey hother hclient query _ _).bind
  rintro items _ rfl
  exact Action.alike_ofExcept (.refl _)

theorem alike_provide (hchannel : channel.IgnoresHeaders) (hkey : Headers.Usable key)
    (hother : Headers.Usable other) (hclient : first.Alike key other second) (query : String)
    (documents : List String) (topN : Option Nat) :
    Action.Alike key other Eq (provide channel first query documents topN)
      (provide channel second query documents topN) := by
  rw [provide, provide, hclient.service.topN, hclient.service.model]
  apply (alike_rank hchannel hkey hother hclient query _ _).bind
  rintro items _ rfl
  exact Action.alike_pure rfl

theorem alike_availableModels (hchannel : channel.IgnoresHeaders) (hkey : Headers.Usable key)
    (hother : Headers.Usable other) (hclient : first.Alike key other second) :
    Action.Alike key other Eq (availableModels channel first) (availableModels channel second) := by
  have hdeployment := hclient.service.deployment
  rw [availableModels, availableModels, hclient.service.baseUrl]
  generalize first.service.deployment = deployment at hdeployment ⊢
  generalize second.service.deployment = deployment' at hdeployment ⊢
  cases hdeployment with
  | hosted => exact Action.alike_pure rfl
  | selfHosted listing =>
    cases listing with
    | some models => exact Action.alike_pure rfl
    | none => exact Action.alike_fetchModels hchannel hkey hother _

end Reranker

namespace Step

variable {first second : Reranker}

theorem alike_next (step : Step σ) (hclient : first.Alike key other second) :
    (step.next first).Alike key other (step.next second) := by
  cases step with
  | setSink sink => exact ⟨hclient.service, rfl⟩
  | _ => exact hclient

theorem alike_perform [Url.Idna] (hchannel : channel.IgnoresHeaders) (hkey : Headers.Usable key)
    (hother : Headers.Usable other) (step : Step σ) (hclient : first.Alike key other second) :
    Action.Alike key other (Outcome.Alike key other) (step.perform channel first)
      (step.perform channel second) := by
  cases step with
  | info => exact Action.alike_pure hclient.service
  | rerank query passages =>
    cases passages with
    | texts passages =>
      apply (Reranker.alike_rerank hchannel hkey hother hclient query passages).map
      rintro ranked _ rfl
      exact rfl
    | chunks passages =>
      apply (Reranker.alike_rerank hchannel hkey hother hclient query passages).map
      rintro ranked _ rfl
      exact rfl
  | provide query documents topN =>
    apply (Reranker.alike_provide hchannel hkey hother hclient query documents topN).map
    rintro answer _ rfl
    exact rfl
  | models =>
    apply (Reranker.alike_availableModels hchannel hkey hother hclient).map
    rintro models _ rfl
    exact rfl
  | setSink sink => exact Action.alike_pure rfl
  | change f => exact fun state => ⟨.ok rfl, rfl, .nil⟩

end Step

/-- Sessions on clients that differ in the key are alike step by step. -/
theorem alike_session [Url.Idna] (hchannel : channel.IgnoresHeaders) (hkey : Headers.Usable key)
    (hother : Headers.Usable other) {first second : Reranker}
    (hclient : first.Alike key other second) (state : σ) (steps : List (Step σ)) :
    List.Forall₂ (Run.Alike key other (Outcome.Alike key other))
      (session channel first state steps) (session channel second state steps) := by
  induction steps generalizing first second state with
  | nil => exact .nil
  | cons step rest ih =>
    have hstep := step.alike_perform hchannel hkey hother hclient state
    apply List.Forall₂.cons hstep
    have hstate : (step.perform channel first state).state =
        (step.perform channel second state).state := hstep.state
    rw [hstate]
    exact ih (step.alike_next hclient) _

/-- Over replies that are given beforehand, or over any channel that does not look at the headers,
connecting and every later step have the same outcome, log records, events and requests with one
usable key as with any other, but for the credentials in the requests and the key that the client
keeps. -/
theorem Reranker.alike_of_keys [Url.Idna] (hchannel : channel.IgnoresHeaders)
    (hkey : Headers.Usable key) (hother : Headers.Usable other) (settings : Settings) (state : σ)
    (steps : List (Step σ)) :
    let first := (connect channel { settings with apiKey := some key }).run state
    let second := (connect channel { settings with apiKey := some other }).run state
    Run.Alike key other (Alike key other) first second ∧
      ∀ client client', first.result = .ok client → second.result = .ok client' →
        List.Forall₂ (Run.Alike key other (Outcome.Alike key other))
          (session channel client first.state steps)
          (session channel client' second.state steps) := by
  intro first second
  have hconnect := alike_connect hchannel hkey hother settings state
  refine ⟨hconnect, ?_⟩
  intro client client' hclient hclient'
  have hresult : Agree (Alike key other) first.result second.result := hconnect.result
  have hstate : first.state = second.state := hconnect.state
  rw [hclient, hclient'] at hresult
  cases hresult with
  | ok hrelated =>
    rw [hstate]
    exact alike_session hchannel hkey hother hrelated _ steps

/-- Two keys for a service that lists its models and then ranks a passage. -/
theorem Reranker.alike_of_keys_localSettings :
    let replies := [Service.listingReply, jsonReply "\x7b\"rankings\": [[0, 1]]\x7d"]
    let steps := [.info, .setSink .recording, .rerank "q" (.texts ["a"]), .models]
    let first := (connect Channel.scripted
      { Service.localSettings with apiKey := some "key" }).run replies
    let second := (connect Channel.scripted
      { Service.localSettings with apiKey := some "other" }).run replies
    Headers.Usable "key" ∧ Headers.Usable "other" ∧ ∃ client client',
      first.result = .ok client ∧ second.result = .ok client' ∧
        List.Forall₂ (Run.Alike "key" "other" (Outcome.Alike "key" "other"))
          (session Channel.scripted client first.state steps)
          (session Channel.scripted client' second.state steps) := by
  intro replies steps first second
  have hkey : Headers.Usable "key" := ⟨by decide, .bearer "key", rfl⟩
  have hother : Headers.Usable "other" := ⟨by decide, .bearer "other", rfl⟩
  obtain ⟨hconnect, hsteps⟩ := alike_of_keys Channel.ignoresHeaders_scripted hkey hother
    Service.localSettings replies steps
  have hfound : first.result.toBool = true := by decide +kernel
  have hagree : Agree (Alike "key" "other") first.result second.result := hconnect.result
  refine ⟨hkey, hother, ?_⟩
  cases hclient : first.result with
  | error failure =>
    rw [hclient] at hfound
    exact absurd hfound Bool.false_ne_true
  | ok client =>
    rw [hclient] at hagree
    cases hclient' : second.result with
    | error failure =>
      rw [hclient'] at hagree
      cases hagree
    | ok client' => exact ⟨client, client', rfl, rfl, hsteps client client' hclient hclient'⟩

end Rerank
