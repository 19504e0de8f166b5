import Rerank.Proofs.Destinations
import Rerank.Proofs.Ranking.Provider

/-!
# How the models of a service are told

The models of the hosted service are in the catalog, and those that were listed when a service was
found are kept with it.  In both cases they are told without asking, so that a session goes on as
if nobody had wanted to know them.  Only an internal model is found without a listing; then each
question for the models is one request.
-/

namespace Rerank

/-- The requests among observations that only read. -/
def readsOf (trace : List Observation) : List Request :=
  (requestsOf trace).filter fun request => request.method == "GET"

@[simp]
theorem readsOf_append (first second : List Observation) :
    readsOf (first ++ second) = readsOf first ++ readsOf second := by
  rw [readsOf, requestsOf_append, List.filter_append]
  rfl

theorem readsOf_eq_nil_of_post {trace : List Observation}
    (hpost : ∀ request ∈ requestsOf trace, request.method = "POST") : readsOf trace = [] := by
  apply List.filter_eq_nil_iff.2
  intro request hrequest
  rw [hpost request hrequest]
  decide

theorem readsOf_eq_nil_of_unsent {trace : List Observation} (hunsent : requestsOf trace = []) :
    readsOf trace = [] := by
  rw [readsOf, hunsent]
  rfl

/-- A step of a session, the state of the channel in which it begins, and what comes of it. -/
structure Entry (σ : Type) where
  step : Step σ
  before : σ
  run : Run σ Outcome

namespace Entry

variable {σ : Type}

/-- Steps with their runs.  Each step begins in the state that the run before it left. -/
def zip (state : σ) : List (Step σ) → List (Run σ Outcome) → List (Entry σ)
  | step :: steps, run :: runs => { step, before := state, run } :: zip run.state steps runs
  | _, _ => []

/-- What happens in a session. -/
def ofSession [Url.Idna] (channel : Channel σ) (client : Reranker) (state : σ)
    (steps : List (Step σ)) : List (Entry σ) :=
  zip state steps (session channel client state steps)

end Entry

namespace Step

variable {σ : Type}

/-- Whether the step asks for the models. -/
def isModels : Step σ → Bool
  | models => true
  | _ => false

theorem isModels_iff {step : Step σ} : step.isModels = true ↔ step = models := by
  cases step <;> simp [isModels]

/-- A step changes nothing of a client but its sink. -/
theorem exists_next_eq (step : Step σ) (client : Reranker) :
    ∃ sink, step.next client = { client with sink } := by
  cases step with
  | setSink sink => exact ⟨sink, rfl⟩
  | info | rerank _ _ | provide _ _ _ | models | change _ => exact ⟨client.sink, rfl⟩

end Step

section Sessions

variable [Url.Idna] {σ : Type} {channel : Channel σ} {client : Reranker} {state : σ}

theorem Entry.ofSession_cons (step : Step σ) (steps : List (Step σ)) :
    ofSession channel client state (step :: steps) =
      { step, before := state, run := (step.perform channel client).run state } ::
        ofSession channel (step.next client) ((step.perform channel client).run state).state
          steps :=
  rfl

/-- The runs of a session are those of its steps. -/
theorem Entry.map_run_ofSession (steps : List (Step σ)) :
    (ofSession channel client state steps).map run = session channel client state steps := by
  induction steps generalizing client state with
  | nil => rfl
  | cons step rest ih =>
    rw [ofSession_cons, List.map_cons, ih]
    rfl

/-- Every step is performed by the client, whose sink alone may be another by then. -/
theorem Entry.exists_perform {steps : List (Step σ)} {entry : Entry σ}
    (hentry : entry ∈ ofSession channel client state steps) :
    ∃ sink, entry.run = (entry.step.perform channel { client with sink }).run entry.before := by
  induction steps generalizing client state with
  | nil => contradiction
  | cons step rest ih =>
    rw [ofSession_cons] at hentry
    obtain rfl | hlater := List.mem_cons.1 hentry
    · exact ⟨client.sink, rfl⟩
    · obtain ⟨sink, hnext⟩ := step.exists_next_eq client
      rw [hnext] at hlater
      obtain ⟨later, hrun⟩ := ih hlater
      exact ⟨later, hrun⟩

/-- If no step reads, the session does not. -/
theorem readsOf_session_eq_nil {steps : List (Step σ)}
    (hreads : ∀ entry ∈ Entry.ofSession channel client state steps, readsOf entry.run.trace = []) :
    readsOf ((session channel client state steps).flatMap Run.trace) = [] := by
  rw [← Entry.map_run_ofSession, List.flatMap_map]
  generalize Entry.ofSession channel client state steps = entries at hreads
  induction entries with
  | nil => rfl
  | cons entry rest ih =>
    obtain ⟨hentry, hrest⟩ := List.forall_mem_cons.1 hreads
    rw [List.flatMap_cons, readsOf_append, hentry, ih hrest]
    rfl

end Sessions

/-- The models of a service that are known without asking. -/
def Service.known? (service : Service) : Option (List Model) :=
  if service.isHosted then some Catalog.hosted else service.listing

theorem Service.isHosted_of_listing {service : Service} {models : List Model}
    (hlisting : service.listing = some models) : service.isHosted = false := by
  rw [listing] at hlisting
  rw [isHosted]
  cases hdeployment : service.deployment with
  | hosted key =>
    rw [hdeployment] at hlisting
    contradiction
  | selfHosted key listing => rfl

theorem Service.known?_of_isHosted {service : Service} (hhosted : service.isHosted = true) :
    service.known? = some Catalog.hosted :=
  if_pos hhosted

theorem Service.known?_of_listing {service : Service} {models : List Model}
    (hlisting : service.listing = some models) : service.known? = some models := by
  rw [known?, isHosted_of_listing hlisting, hlisting]
  rfl

theorem Service.known?_eq_none {service : Service} (hhosted : service.isHosted = false)
    (hlisting : service.listing = none) : service.known? = none := by
  rw [known?, hhosted, hlisting]
  rfl

theorem Service.exists_known? {service : Service}
    (hkind : service.isHosted = true ∨ service.listing ≠ none) :
    ∃ models, service.known? = some models := by
  obtain hhosted | hlisting := hkind
  · exact ⟨Catalog.hosted, known?_of_isHosted hhosted⟩
  · obtain ⟨models, hmodels⟩ := Option.ne_none_iff_exists'.1 hlisting
    exact ⟨models, known?_of_listing hmodels⟩

/-! ## Single steps -/

section Calls

variable [Url.Idna] {σ : Type} (channel : Channel σ) (client : Reranker) (state : σ)

theorem Reranker.readsOf_rank (query : String) (texts : List String) (topN : Nat) :
    readsOf ((rank channel client query texts topN).run state).trace = [] := by
  apply readsOf_eq_nil_of_post
  intro request hrequest
  obtain ⟨url, headers, batch, -, rfl⟩ := exists_post_of_rank hrequest
  rfl

/-- Only a step that asks for the models reads. -/
theorem Step.readsOf_perform {step : Step σ} (hstep : step.isModels = false) :
    readsOf ((step.perform channel client).run state).trace = [] := by
  cases step with
  | info | setSink sink | change f => rfl
  | models => contradiction
  | rerank query passages =>
    cases passages with
    | texts passages | chunks passages =>
      rw [perform, Action.run_map, Run.trace_map, Reranker.trace_rerank]
      exact Reranker.readsOf_rank ..
  | provide query documents topN =>
    rw [perform, Action.run_map, Run.trace_map, Reranker.run_provide, Run.trace_map]
    exact Reranker.readsOf_rank ..

/-- Models that are known are told, and others are asked for. -/
theorem Reranker.availableModels_eq :
    availableModels channel client =
      match client.service.known? with
      | some models => pure models
      | none => Action.fetchModels channel client.service.baseUrl client.service.apiKey := by
  obtain ⟨⟨model, baseUrl, deployment, truncation, topN, maxBatchSize⟩, sink⟩ := client
  cases deployment with
  | hosted key => rfl
  | selfHosted key listing => cases listing <;> rfl

theorem Step.run_models_of_known {models : List Model}
    (hknown : client.service.known? = some models) :
    ((Step.models : Step σ).perform channel client).run state =
      ⟨.ok (.models models), state, []⟩ := by
  rw [perform, Action.run_map, Reranker.availableModels_eq, hknown]
  rfl

theorem Step.run_models_of_unknown (hunknown : client.service.known? = none) :
    ((Step.models : Step σ).perform channel client).run state =
      ((Action.fetchModels channel client.service.baseUrl client.service.apiKey).run state).map
        .models := by
  rw [perform, Action.run_map, Reranker.availableModels_eq, hunknown]

end Calls

/-- How a session tells models that are known. -/
structure TellsKnown {σ : Type} (models : List Model) (entry : Entry σ) : Prop where
  reads_eq : readsOf entry.run.trace = []
  /-- They are told without the channel. -/
  run_eq : entry.step = .models → entry.run = ⟨.ok (.models models), entry.before, []⟩

/-- How a session tells models that have to be asked for. -/
structure TellsOnDemand [Url.Idna] {σ : Type} (channel : Channel σ) (service : Service)
    (entry : Entry σ) : Prop where
  length_reads_le : (readsOf entry.run.trace).length ≤ 1
  reads_of_other : entry.step ≠ .models → readsOf entry.run.trace = []
  /-- They are asked for by one request, and are those in what comes of it. -/
  asks : entry.step = .models → ∀ url headers, Endpoint.modelsUrl service.baseUrl = .ok url →
    Headers.forKey service.apiKey = .ok headers →
      let request : Request := { url, headers, payload := none }
      let exchanged := channel.exchange request entry.before
      readsOf entry.run.trace = [request] ∧ requestsOf entry.run.trace = [request] ∧
        outcomesOf entry.run.trace = [exchanged.1] ∧ entry.run.state = exchanged.2 ∧
        entry.run.result = (listed exchanged.1).map .models
  /-- If no request can be made, nothing is asked. -/
  fails : entry.step = .models → ∀ failure,
    modelsRequest service.baseUrl service.apiKey = .error failure →
      entry.run = ⟨.error failure, entry.before, []⟩

section Told

variable [Url.Idna] {σ : Type} {channel : Channel σ} {client : Reranker} {state : σ}

theorem tellsKnown_of_mem {models : List Model} (hknown : client.service.known? = some models)
    {steps : List (Step σ)} {entry : Entry σ}
    (hentry : entry ∈ Entry.ofSession channel client state steps) : TellsKnown models entry := by
  obtain ⟨sink, hrun⟩ := Entry.exists_perform hentry
  have htold (hstep : entry.step = .models) :
      entry.run = ⟨.ok (.models models), entry.before, []⟩ := by
    rw [hrun, hstep]
    exact Step.run_models_of_known channel { client with sink } entry.before hknown
  refine ⟨?_, htold⟩
  cases hmodels : entry.step.isModels with
  | false =>
    rw [hrun]
    exact Step.readsOf_perform _ _ _ hmodels
  | true =>
    rw [htold (Step.isModels_iff.1 hmodels)]
    rfl

/-- Models that are known are not asked for in a session. -/
theorem readsOf_session_of_known {models : List Model}
    (hknown : client.service.known? = some models) (steps : List (Step σ)) :
    readsOf ((session channel client state steps).flatMap Run.trace) = [] := by
  apply readsOf_session_eq_nil
  intro entry hentry
  exact (tellsKnown_of_mem hknown hentry).reads_eq

theorem tellsOnDemand_of_mem (hunknown : client.service.known? = none) {steps : List (Step σ)}
    {entry : Entry σ}
    (hentry : entry ∈ Entry.ofSession channel client state steps) :
    TellsOnDemand channel client.service entry := by
  obtain ⟨sink, hrun⟩ := Entry.exists_perform hentry
  have hasked (hstep : entry.step = .models) : entry.run =
      ((Action.fetchModels channel client.service.baseUrl client.service.apiKey).run
        entry.before).map .models := by
    rw [hrun, hstep]
    exact Step.run_models_of_unknown channel { client with sink } entry.before hunknown
  have hother (hstep : entry.step ≠ .models) : readsOf entry.run.trace = [] := by
    have hmodels : entry.step.isModels = false := by simpa using mt Step.isModels_iff.1 hstep
    rw [hrun]
    exact Step.readsOf_perform _ _ _ hmodels
  constructor
  case reads_of_other => exact hother
  case length_reads_le =>
    by_cases hstep : entry.step = .models
    · rw [hasked hstep, Run.trace_map, Action.run_fetchModels]
      apply (List.length_filter_le _ _).trans
      split
      · exact Nat.zero_le 1
      · rw [requestsOf_exchange]
        exact Nat.le_refl 1
    · rw [hother hstep]
      exact Nat.zero_le 1
  case asks =>
    intro hstep url headers hurl hheaders
    have hrequest : modelsRequest client.service.baseUrl client.service.apiKey =
        .ok { url, headers, payload := none } :=
      modelsRequest_eq_ok_iff.2 ⟨hurl, hheaders, rfl⟩
    rw [hasked hstep, Action.run_fetchModels, hrequest]
    exact ⟨by rw [readsOf]; simp; rfl, by simp, by simp, rfl, rfl⟩
  case fails =>
    intro hstep failure hrequest
    rw [hasked hstep, Action.run_fetchModels, hrequest]
    rfl

/-- To ask for models that are known changes nothing else in a session. -/
theorem Entry.filter_ofSession {models : List Model} (hknown : client.service.known? = some models)
    (steps : List (Step σ)) :
    (ofSession channel client state steps).filter (!·.step.isModels) =
      ofSession channel client state (steps.filter (!·.isModels)) := by
  induction steps generalizing client state with
  | nil => rfl
  | cons step rest ih =>
    rw [ofSession_cons]
    cases hmodels : step.isModels with
    | true =>
      obtain rfl := Step.isModels_iff.1 hmodels
      rw [List.filter_cons_of_neg (by simp [hmodels]), List.filter_cons_of_neg (by simp [hmodels])]
      rw [Step.run_models_of_known channel client state hknown]
      exact ih hknown
    | false =>
      rw [List.filter_cons_of_pos (by simp [hmodels]), List.filter_cons_of_pos (by simp [hmodels]),
        ofSession_cons]
      have hnext : (step.next client).service.known? = some models := by
        rw [step.service_next, hknown]
      rw [ih hnext]

end Told

namespace Service

variable {σ : Type} {channel : Channel σ} {settings : Settings} {state : σ} {service : Service}

/-- The hosted service is found without a request, and any other one knows its models as `Known`
tells. -/
theorem known_of_discover [Url.Idna]
    (hfound : ((discover channel settings).run state).result = .ok service) :
    (service.isHosted = true →
      requestsOf ((discover channel settings).run state).trace = []) ∧
    (service.isHosted = false →
      Known (settings.model.bind Text.nonBlank) service.baseUrl service.model service.apiKey
        ((discover channel settings).run state).trace service.listing) := by
  obtain ⟨hsize, choice, hchoice, rfl⟩ := discover_eq_ok hfound
  have hhosted := isEndpoint_of_choose hchoice
  rw [run_discover channel state hsize, Run.trace_map]
  rw [choose] at hchoice ⊢
  split at hchoice
  · next hendpoint =>
    rw [if_pos hendpoint]
    refine ⟨fun _ => requestsOf_findHosted .., fun hnot => ?_⟩
    exact absurd (hendpoint.symm.trans (hhosted.symm.trans hnot)) (by decide)
  · next hendpoint =>
    rw [if_neg hendpoint]
    refine ⟨fun hyes => absurd (hhosted.symm.trans hyes) hendpoint, fun _ => ?_⟩
    obtain ⟨-, listing, hdeployment, hknown⟩ := findSelfHosted_eq_ok hchoice
    simpa [apiKey, Service.listing, Choice.service, hdeployment] using hknown

end Service

namespace Catalog

/-- The catalog is in the order of the identifiers of its models, of which no two are the same. -/
theorem pairwise_hosted : hosted.Pairwise fun first second => first.id < second.id := by
  decide +kernel

end Catalog

namespace Reranker

variable {σ : Type}

/-- How the models of a service are told, over a whole session.  The hosted service is never asked
for them, and tells those of the catalog in the order of their identifiers.  A service that listed
its models was asked once, while connecting, and tells the models of that reply without being asked
again.  Any other service was not asked while connecting, and is asked once by each step that wants
to know its models.  Whoever is not asked is not disturbed: with more or fewer steps that ask for
the models, all other steps begin in the same states and have the same runs. -/
theorem listing_traffic [Url.Idna] (channel : Channel σ) {settings : Settings} {state : σ}
    {client : Reranker} (hclient : ((connect channel settings).run state).result = .ok client)
    (later : σ) (steps : List (Step σ)) :
    let connecting := (connect channel settings).run state
    let seen := connecting.trace ++ (session channel client later steps).flatMap Run.trace
    let entries := Entry.ofSession channel client later steps
    (client.service.isHosted = true →
      readsOf seen = [] ∧ (∀ entry ∈ entries, TellsKnown Catalog.hosted entry) ∧
        Catalog.hosted.Pairwise fun first second => first.id < second.id) ∧
    (∀ models, client.service.listing = some models →
      ∃ request reply, requestsOf connecting.trace = [request] ∧ request.method = "GET" ∧
        outcomesOf connecting.trace = [.ok reply] ∧ parseModels reply.body = .ok models ∧
        readsOf seen = [request] ∧ ∀ entry ∈ entries, TellsKnown models entry) ∧
    (client.service.isHosted = false → client.service.listing = none →
      requestsOf connecting.trace = [] ∧
        ∀ entry ∈ entries, TellsOnDemand channel client.service entry) ∧
    (client.service.isHosted = true ∨ client.service.listing ≠ none →
      ∀ others : List (Step σ), others.filter (!·.isModels) = steps.filter (!·.isModels) →
        (Entry.ofSession channel client later others).filter (!·.step.isModels) =
          entries.filter (!·.step.isModels)) := by
  rw [run_connect] at hclient ⊢
  obtain ⟨service, hfound, rfl⟩ := except_map_eq_ok_iff.1 hclient
  obtain ⟨hhosted, hknown⟩ := Service.known_of_discover hfound
  dsimp only [Run.trace_map]
  refine ⟨?_, ?_, ?_, ?_⟩
  · intro hyes
    have htold := Service.known?_of_isHosted hyes
    refine ⟨?_, fun entry hentry => tellsKnown_of_mem htold hentry, Catalog.pairwise_hosted⟩
    rw [readsOf_append, readsOf_session_of_known htold, List.append_nil]
    exact readsOf_eq_nil_of_unsent (hhosted hyes)
  · intro models hlisting
    have htold := Service.known?_of_listing hlisting
    have hlisted := hknown (Service.isHosted_of_listing hlisting)
    rw [hlisting] at hlisted
    cases hlisted with
    | @listed _ request reply _ hget _ _ hrequests houtcomes hparse _ =>
      refine ⟨request, reply, hrequests, hget, houtcomes, hparse, ?_,
        fun entry hentry => tellsKnown_of_mem htold hentry⟩
      rw [readsOf_append, readsOf_session_of_known htold, List.append_nil, readsOf, hrequests]
      simp [hget]
  · intro hnot hlisting
    have hinternal := hknown hnot
    rw [hlisting] at hinternal
    cases hinternal with
    | internal _ _ hrequests =>
      have hunknown := Service.known?_eq_none hnot hlisting
      exact ⟨hrequests, fun entry hentry => tellsOnDemand_of_mem hunknown hentry⟩
  · intro hkind others hothers
    obtain ⟨models, htold⟩ := Service.exists_known? hkind
    rw [Entry.filter_ofSession htold, Entry.filter_ofSession htold, hothers]

/-- A service of its own that listed its models, with questions for them around a call. -/
theorem listing_traffic_localSettings :
    let connecting := (connect Channel.scripted Service.localSettings).run [Service.listingReply]
    let client : Reranker := { service := Service.localService, sink := .logging }
    let replies := [jsonReply "\x7b\"rankings\": [[0, 1]]\x7d"]
    let call : Step (List Response) := .rerank "q" (.texts ["a"])
    let runs := session Channel.scripted client replies [.models, call, .models]
    let entries := Entry.ofSession Channel.scripted client replies [.models, call, .models]
    connecting.result = .ok client ∧
      (readsOf (connecting.trace ++ runs.flatMap Run.trace)).length = 1 ∧
      (∀ entry ∈ entries,
        TellsKnown [⟨"tuned", some "base", none⟩, ⟨"base", none, none⟩] entry) ∧
      (Entry.ofSession Channel.scripted client replies [call]).filter (!·.step.isModels) =
        entries.filter (!·.step.isModels) := by
  intro connecting client replies call runs entries
  have hclient := result_connect_localSettings
  obtain ⟨-, hlisted, -, hothers⟩ := listing_traffic Channel.scripted hclient replies
    [.models, call, .models]
  obtain ⟨request, reply, -, -, -, -, hreads, htold⟩ := hlisted _ rfl
  refine ⟨hclient, ?_, htold, hothers (.inr (by decide)) [call] rfl⟩
  rw [hreads]
  rfl

end Reranker

end Rerank
