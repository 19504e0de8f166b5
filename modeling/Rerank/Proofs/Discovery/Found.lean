import Rerank.Proofs.Discovery.Basic
import Rerank.Reranker
import Rerank.Url.KnownNames

/-!
# What is known of every service that was found

The hosted service is found by an endpoint of the catalog and has a key; any other service is found
by its base url and has listed its model, unless that one is internal.  The limits are those of the
settings, and a batch can never be empty.
-/

namespace Rerank

namespace Catalog

/-- A url is an endpoint of the catalog, but for slashes at the end of either. -/
def HasEndpoint (catalog : Catalog) (url : String) : Prop :=
  ∃ known ∈ catalog, ∃ endpoint, known.endpoint = some endpoint ∧
    Text.trimEndSlashes endpoint = Text.trimEndSlashes url

theorem isEndpoint_iff {catalog : Catalog} {url : String} :
    catalog.isEndpoint url = true ↔ catalog.HasEndpoint url := by
  simp only [isEndpoint, HasEndpoint, List.any_eq_true, List.mem_filterMap, beq_iff_eq]
  constructor
  · rintro ⟨endpoint, ⟨known, hknown, hendpoint⟩, hsame⟩
    exact ⟨known, hknown, endpoint, hendpoint, hsame⟩
  · rintro ⟨known, hknown, endpoint, hendpoint, hsame⟩
    exact ⟨endpoint, ⟨known, hknown, hendpoint⟩, hsame⟩

theorem mem_of_get?_eq_some {catalog : Catalog} {id : String} {known : Model}
    (hget : catalog.get? id = some known) : known ∈ catalog ∧ known.id = id :=
  ⟨List.mem_of_find?_eq_some hget, by simpa using List.find?_some hget⟩

/-- No model of the hosted catalog is internal. -/
theorem get?_hosted_of_isInternal {model : String} (hinternal : isInternal model = true) :
    hosted.get? model = none := by
  have hnamed : ∀ known ∈ hosted, isInternal known.id = false := by decide
  by_contra hsome
  obtain ⟨known, hget⟩ := Option.ne_none_iff_exists'.1 hsome
  obtain ⟨hknown, rfl⟩ := mem_of_get?_eq_some hget
  rw [hnamed known hknown] at hinternal
  contradiction

theorem endpoint_of_mem_hosted {known : Model} (hknown : known ∈ hosted) :
    ∃ endpoint, known.endpoint = some endpoint := by
  have hall : ∀ known ∈ hosted, known.endpoint.isSome = true := by decide
  exact Option.isSome_iff_exists.1 (hall known hknown)

end Catalog

theorem Text.nonBlank_eq_some_iff {s t : String} :
    nonBlank s = some t ↔ s = t ∧ isBlank t = false := by
  rw [nonBlank]
  split
  · next hblank =>
    constructor
    · intro h
      contradiction
    · rintro ⟨rfl, hnot⟩
      rw [hblank] at hnot
      contradiction
  · next hblank =>
    constructor
    · intro h
      cases h
      exact ⟨rfl, by simpa using hblank⟩
    · rintro ⟨rfl, -⟩
      rfl

/-- A setting counts if it is there and not blank. -/
theorem bind_nonBlank_eq_some_iff {setting : Option String} {text : String} :
    setting.bind Text.nonBlank = some text ↔ setting = some text ∧ Text.isBlank text = false := by
  simp only [Option.bind_eq_some_iff, Text.nonBlank_eq_some_iff]
  constructor
  · rintro ⟨_, hsetting, rfl, hblank⟩
    exact ⟨hsetting, hblank⟩
  · rintro ⟨hsetting, hblank⟩
    exact ⟨text, hsetting, rfl, hblank⟩

theorem bind_nonBlank_eq_none_iff {setting : Option String} :
    setting.bind Text.nonBlank = none ↔
      ¬ ∃ text, setting = some text ∧ Text.isBlank text = false := by
  simp only [← bind_nonBlank_eq_some_iff, ← Option.isSome_iff_exists, Option.not_isSome_iff_eq_none]

namespace Service

/-- The endpoint of a hosted model is its own, if the catalog has it. -/
theorem fst_hostedEndpoint (configured model : String) :
    (hostedEndpoint configured model).1 =
      ((Catalog.hosted.get? model).bind Model.endpoint).getD configured := by
  rw [hostedEndpoint]
  split
  · next hinternal => rw [Catalog.get?_hosted_of_isInternal hinternal]; rfl
  · split <;> simp [*]

theorem chooseModel_eq_ok {configured : Option String} {models : List Model} {chosen : String}
    (hchosen : chooseModel configured models = .ok chosen) :
    (∃ model ∈ models, model.id = chosen) ∧ ∀ model, configured = some model → chosen = model := by
  cases configured with
  | some model =>
    rw [chooseModel] at hchosen
    split at hchosen
    · next hlisted =>
      cases hchosen
      obtain ⟨entry, hentry, hid⟩ := List.any_eq_true.1 hlisted
      exact ⟨⟨entry, hentry, by simpa using hid⟩, fun _ hmodel => Option.some.inj hmodel⟩
    · contradiction
  | none =>
    rw [chooseModel] at hchosen
    split at hchosen
    · next entry hfound =>
      cases hchosen
      exact ⟨⟨entry, List.mem_of_find?_eq_some hfound, rfl⟩, fun _ hmodel => nomatch hmodel⟩
    · contradiction

section Finding

variable [Url.Idna]

/-- How a service of its own came to its model: an internal model is not looked for, and any other
one is in the listing that was asked for with one request. -/
inductive Known (configured : Option String) (baseUrl : Url) (model : String)
    (apiKey : Option String) (trace : List Observation) : Option (List Model) → Prop where
  | internal (hconfigured : configured = some model) (hinternal : Catalog.isInternal model = true)
      (hrequests : requestsOf trace = []) : Known configured baseUrl model apiKey trace none
  | listed {models request reply} (hconfigured : ∀ name, configured = some name → model = name)
      (hget : request.method = "GET") (hurl : Endpoint.modelsUrl baseUrl = .ok request.url)
      (hheaders : Headers.forKey apiKey = .ok request.headers)
      (hrequests : requestsOf trace = [request]) (houtcomes : outcomesOf trace = [.ok reply])
      (hparse : parseModels reply.body = .ok models)
      (hlisted : ∃ entry ∈ models, entry.id = model) :
      Known configured baseUrl model apiKey trace (some models)

section Stages

variable {σ : Type} {channel : Channel σ} {model apiKey : Option String} {state : σ}
  {choice : Choice}

theorem findHosted_eq_ok {configured : String}
    (hfound : ((findHosted model apiKey configured).run state).result = .ok choice) :
    (∃ key, apiKey = some key ∧ choice.deployment = .hosted key) ∧
      Url.parse (hostedEndpoint configured choice.model).1 = .ok choice.baseUrl := by
  cases apiKey with
  | none =>
    rw [run_findHosted_none] at hfound
    cases hfound
  | some key =>
    rw [run_findHosted_some] at hfound
    dsimp only at hfound
    split at hfound
    · cases hfound
    · next hparse =>
      cases hfound
      exact ⟨⟨key, rfl, rfl⟩, hparse⟩

theorem requestsOf_findHosted (model apiKey : Option String) (configured : String) :
    requestsOf ((findHosted model apiKey configured : Action σ Choice).run state).trace = [] := by
  cases apiKey with
  | none => rfl
  | some key =>
    rw [run_findHosted_some]
    exact requestsOf_logs _

theorem findSelfHosted_eq_ok {raw : String}
    (hfound : ((findSelfHosted channel model apiKey raw).run state).result = .ok choice) :
    (∃ records, Endpoint.normalize raw = .ok (choice.baseUrl, records)) ∧
      ∃ listing, choice.deployment = .selfHosted apiKey listing ∧
        Known model choice.baseUrl choice.model apiKey
          ((findSelfHosted channel model apiKey raw).run state).trace listing := by
  cases hnormal : Endpoint.normalize raw with
  | error failure =>
    rw [run_findSelfHosted_of_error channel state hnormal] at hfound
    cases hfound
  | ok normal =>
    obtain ⟨baseUrl, records⟩ := normal
    cases hmodel : model.filter Catalog.isInternal with
    | some internal =>
      rw [run_findSelfHosted_of_internal channel state hnormal hmodel] at hfound ⊢
      cases hfound
      obtain ⟨hconfigured, hinternal⟩ := Option.filter_eq_some_iff.1 hmodel
      exact ⟨⟨records, rfl⟩, none, rfl, .internal hconfigured hinternal (requestsOf_logs _)⟩
    | none =>
      rw [run_findSelfHosted_of_listed channel state hnormal hmodel] at hfound ⊢
      dsimp only at hfound ⊢
      obtain ⟨⟨chosen, models⟩, hchosen, hchoice⟩ := except_map_eq_ok_iff.1 hfound
      obtain ⟨listing, hlisting, hselected⟩ := except_bind_eq_ok_iff.1 hchosen
      obtain ⟨selected, hselect, hpair⟩ := except_map_eq_ok_iff.1 hselected
      cases hpair
      cases hchoice
      obtain ⟨hlisted, hconfigured⟩ := chooseModel_eq_ok (except_mapError_eq_ok_iff.1 hselect)
      obtain ⟨request, reply, hrequest, htrace, hreply⟩ := Action.fetchModels_eq_ok hlisting
      obtain ⟨hurl, hheaders, hpayload⟩ := modelsRequest_eq_ok_iff.1 hrequest
      obtain ⟨_, hsame, -, -, hparse⟩ := listed_eq_ok_iff.1 hreply
      cases hsame
      have hget : request.method = "GET" := by rw [Request.method, hpayload]; rfl
      refine ⟨⟨records, rfl⟩, some models, rfl, ?_⟩
      rw [hchosen, htrace]
      refine .listed hconfigured hget hurl hheaders ?_ ?_ hparse hlisted
      · cases model <;> simp [requestsOf]
      · cases model <;> simp [outcomesOf]

end Stages

/-- What is known of the hosted service that settings with a key lead to. -/
structure FoundHosted (settings : Settings) (key : String) (service : Service)
    (trace : List Observation) : Prop where
  endpoint : Catalog.hosted.HasEndpoint (baseUrlText settings)
  apiKey_eq : settings.apiKey = some key
  apiKey_nonblank : Text.isBlank key = false
  /-- A model of the catalog has its own endpoint. -/
  parse_of_known : ∀ known, Catalog.hosted.get? service.model = some known →
    ∃ endpoint, known.endpoint = some endpoint ∧ Url.parse endpoint = .ok service.baseUrl
  parse_of_unknown : Catalog.hosted.get? service.model = none →
    Url.parse (baseUrlText settings) = .ok service.baseUrl
  requests_eq : requestsOf trace = []

/-- What is known of any other service that settings lead to. -/
structure FoundSelfHosted (settings : Settings) (apiKey : Option String)
    (listing : Option (List Model)) (service : Service) (trace : List Observation) : Prop where
  no_endpoint : ¬ Catalog.hosted.HasEndpoint (baseUrlText settings)
  normalize_eq : ∃ records, Endpoint.normalize (baseUrlText settings) =
    .ok (service.baseUrl, records)
  apiKey_eq : ∀ key, apiKey = some key → settings.apiKey = some key ∧ Text.isBlank key = false
  known : Known (settings.model.bind Text.nonBlank) service.baseUrl service.model apiKey trace
    listing

/-- What is known of every service that settings lead to. -/
structure Found (settings : Settings) (service : Service) (trace : List Observation) : Prop where
  maxBatchSize_pos : 1 ≤ service.maxBatchSize
  maxBatchSize_eq : service.maxBatchSize = settings.maxBatchSize
  topN_eq : service.topN = settings.topN
  truncation_eq : service.truncation = settings.truncation
  hosted : ∀ key, service.deployment = .hosted key → FoundHosted settings key service trace
  selfHosted : ∀ apiKey listing, service.deployment = .selfHosted apiKey listing →
    FoundSelfHosted settings apiKey listing service trace

variable {σ : Type} {channel : Channel σ} {settings : Settings} {state : σ} {service : Service}

theorem foundHosted_of_choose {choice : Choice} {key : String}
    (hendpoint : Catalog.hosted.isEndpoint (baseUrlText settings) = true)
    (hchoice : ((choose channel settings).run state).result = .ok choice)
    (hkey : choice.deployment = .hosted key) :
    FoundHosted settings key (choice.service settings)
      ((choose channel settings).run state).trace := by
  rw [choose, if_pos hendpoint] at hchoice ⊢
  obtain ⟨⟨kept, hkept, hdeployment⟩, hparse⟩ := findHosted_eq_ok hchoice
  obtain rfl : kept = key := by
    rw [hdeployment] at hkey
    exact Deployment.hosted.inj hkey
  obtain ⟨hgiven, hnonblank⟩ := bind_nonBlank_eq_some_iff.1 hkept
  rw [fst_hostedEndpoint] at hparse
  refine ⟨Catalog.isEndpoint_iff.1 hendpoint, hgiven, hnonblank, ?_, ?_, requestsOf_findHosted ..⟩
  · intro known hknown
    obtain ⟨endpoint, hown⟩ :=
      Catalog.endpoint_of_mem_hosted (Catalog.mem_of_get?_eq_some hknown).1
    change Catalog.hosted.get? choice.model = some known at hknown
    rw [hknown, Option.bind_some, hown, Option.getD_some] at hparse
    exact ⟨endpoint, hown, hparse⟩
  · intro hunknown
    change Catalog.hosted.get? choice.model = none at hunknown
    rw [hunknown] at hparse
    exact hparse

theorem foundSelfHosted_of_choose {choice : Choice} {apiKey : Option String}
    {listing : Option (List Model)}
    (hendpoint : Catalog.hosted.isEndpoint (baseUrlText settings) = false)
    (hchoice : ((choose channel settings).run state).result = .ok choice)
    (hkept : choice.deployment = .selfHosted apiKey listing) :
    FoundSelfHosted settings apiKey listing (choice.service settings)
      ((choose channel settings).run state).trace := by
  rw [choose, if_neg (by simp [hendpoint])] at hchoice ⊢
  obtain ⟨hnormal, models, hdeployment, hknown⟩ := findSelfHosted_eq_ok hchoice
  obtain ⟨rfl, rfl⟩ : settings.apiKey.bind Text.nonBlank = apiKey ∧ models = listing := by
    rw [hdeployment] at hkept
    exact Deployment.selfHosted.inj hkept
  refine ⟨?_, hnormal, ?_, hknown⟩
  · rw [← Catalog.isEndpoint_iff, hendpoint]
    exact Bool.false_ne_true
  · intro key hkey
    exact bind_nonBlank_eq_some_iff.1 hkey

/-- An endpoint of the catalog leads to the hosted service. -/
theorem run_discover_of_endpoint (channel : Channel σ) (state : σ)
    (hsize : settings.maxBatchSize ≠ 0)
    (hendpoint : Catalog.hosted.HasEndpoint (baseUrlText settings)) :
    (discover channel settings).run state =
      ((findHosted (settings.model.bind Text.nonBlank) (settings.apiKey.bind Text.nonBlank)
        (baseUrlText settings)).run state).map (Choice.service settings) := by
  rw [run_discover channel state hsize, choose, if_pos (Catalog.isEndpoint_iff.2 hendpoint)]

/-- Every other base url is that of a service of one's own. -/
theorem run_discover_of_no_endpoint (channel : Channel σ) (state : σ)
    (hsize : settings.maxBatchSize ≠ 0)
    (hnone : ¬ Catalog.hosted.HasEndpoint (baseUrlText settings)) :
    (discover channel settings).run state =
      ((findSelfHosted channel (settings.model.bind Text.nonBlank)
        (settings.apiKey.bind Text.nonBlank) (baseUrlText settings)).run state).map
          (Choice.service settings) := by
  rw [run_discover channel state hsize, choose, if_neg (mt Catalog.isEndpoint_iff.1 hnone)]

/-- The deployment follows from the base url. -/
theorem isEndpoint_of_choose {choice : Choice}
    (hchoice : ((choose channel settings).run state).result = .ok choice) :
    (choice.service settings).isHosted = Catalog.hosted.isEndpoint (baseUrlText settings) := by
  rw [choose] at hchoice
  split at hchoice
  · next hendpoint =>
    obtain ⟨⟨key, -, hdeployment⟩, -⟩ := findHosted_eq_ok hchoice
    rw [hendpoint, isHosted, Choice.service, hdeployment]
  · next hendpoint =>
    obtain ⟨-, listing, hdeployment, -⟩ := findSelfHosted_eq_ok hchoice
    rw [Bool.eq_false_of_not_eq_true hendpoint, isHosted, Choice.service, hdeployment]

/-- A service that was found is what the settings describe, whatever was answered. -/
theorem found_of_discover
    (hfound : ((discover channel settings).run state).result = .ok service) :
    Found settings service ((discover channel settings).run state).trace := by
  obtain ⟨hsize, choice, hchoice, rfl⟩ := discover_eq_ok hfound
  rw [run_discover channel state hsize, Run.trace_map]
  have hhosted := isEndpoint_of_choose hchoice
  refine ⟨Nat.one_le_iff_ne_zero.2 hsize, rfl, rfl, rfl, ?_, ?_⟩
  · intro key hkey
    rw [isHosted, hkey] at hhosted
    exact foundHosted_of_choose hhosted.symm hchoice hkey
  · intro apiKey listing hkept
    rw [isHosted, hkept] at hhosted
    exact foundSelfHosted_of_choose hhosted.symm hchoice hkept

end Finding

/-- The listing of a service that offers a model and one derived from it. -/
def listingReply : Response where
  status := 200
  body := "\x7b\"data\": [[\"tuned\", \"base\"], [\"base\"]]\x7d".toUTF8.toList

/-- Settings for a service of its own, with an international name and without a model. -/
def localSettings : Settings where
  model := some " "
  apiKey := some "key"
  baseUrl := some " http://bücher.example:8000/ "

/-- The service that `localSettings` lead to. -/
def localService : Service where
  model := "base"
  baseUrl := {
    scheme := "http"
    authority := some
      { username := ""
        password := none
        host := .name "xn--bcher-kva.example"
        port := some 8000 }
    path := .rooted ["v1"]
    query := none
    fragment := none }
  deployment := .selfHosted (some "key")
    (some [⟨"tuned", some "base", none⟩, ⟨"base", none, none⟩])
  truncation := none
  topN := 5
  maxBatchSize := 64

theorem result_discover_localSettings :
    ((discover Channel.scripted localSettings).run [listingReply]).result = .ok localService := by
  decide +kernel

theorem found_of_discover_localSettings :
    ((discover Channel.scripted localSettings).run [listingReply]).result = .ok localService ∧
      Found localSettings localService
        ((discover Channel.scripted localSettings).run [listingReply]).trace :=
  ⟨result_discover_localSettings, found_of_discover result_discover_localSettings⟩

end Service

theorem Reranker.result_connect_localSettings :
    ((connect Channel.scripted Service.localSettings).run [Service.listingReply]).result =
      .ok { service := Service.localService, sink := .logging } := by
  rw [connect, Action.run_bind_pure, Run.result_map, Service.result_discover_localSettings]
  rfl

end Rerank
