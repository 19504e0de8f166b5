import Rerank.Proofs.Discovery.Faults

/-!
# The hosted service

The hosted service is meant by an endpoint of the catalog, any number of slashes after it.  It is
found without asking, and a key is all that it takes.  A model of the catalog is served at its own
endpoint, whichever one was configured.
-/

namespace Rerank

namespace Catalog

/-- An endpoint of the hosted catalog with any number of slashes after it. -/
def IsHostedEndpoint (url : String) : Prop :=
  ∃ known ∈ hosted, ∃ endpoint n, known.endpoint = some endpoint ∧
    url.toList = endpoint.toList ++ List.replicate n '/'

theorem hasEndpoint_hosted_iff {url : String} :
    hosted.HasEndpoint url ↔ IsHostedEndpoint url := by
  constructor
  · rintro ⟨known, hknown, endpoint, hendpoint, hsame⟩
    obtain ⟨n, hslashes⟩ := Text.exists_slashes url
    rw [← hsame, trimEndSlashes_of_mem_hosted hknown hendpoint] at hslashes
    exact ⟨known, hknown, endpoint, n, hendpoint, hslashes⟩
  · rintro ⟨known, hknown, endpoint, n, hendpoint, hslashes⟩
    exact ⟨known, hknown, endpoint, hendpoint, (Text.trimEndSlashes_of_slashes hslashes).symm⟩

/-- No two models of the hosted catalog have the same name. -/
theorem get?_hosted_of_mem {known : Model} (hknown : known ∈ hosted) :
    hosted.get? known.id = some known := by
  have hall : ∀ known ∈ hosted, hosted.get? known.id = some known := by decide
  exact hall known hknown

theorem get?_eq_none_iff {catalog : Catalog} {id : String} :
    catalog.get? id = none ↔ ∀ known ∈ catalog, known.id ≠ id := by
  simp [get?]

end Catalog

namespace Service

/-- A hosted model is warned about if the catalog does not have it and it is not internal. -/
theorem unverifiedModel_mem_hostedEndpoint_iff {configured model name : String} :
    .unverifiedModel name ∈ (hostedEndpoint configured model).2 ↔
      name = model ∧ (∀ known ∈ Catalog.hosted, known.id ≠ name) ∧
        Catalog.isInternal name = false := by
  rw [← Catalog.get?_eq_none_iff, hostedEndpoint]
  split
  · next hinternal =>
    simp only [List.not_mem_nil, false_iff]
    rintro ⟨rfl, -, hnot⟩
    rw [hinternal] at hnot
    contradiction
  · next hinternal =>
    split
    · next known hknown =>
      simp only [List.not_mem_nil, false_iff]
      rintro ⟨rfl, hnone, -⟩
      rw [hknown] at hnone
      contradiction
    · next hnone =>
      simp only [List.mem_singleton, LogRecord.unverifiedModel.injEq]
      constructor
      · rintro rfl
        exact ⟨rfl, hnone, Bool.eq_false_of_not_eq_true hinternal⟩
      · exact And.left

/-- What is known of the hosted service that settings lead to, and of what was logged. -/
structure HostedBy [Url.Idna] (settings : Settings) (service : Service)
    (trace : List Observation) : Prop where
  model_eq : service.model = (settings.model.bind Text.nonBlank).getD Catalog.defaultModel
  of_known : ∀ known ∈ Catalog.hosted, known.id = service.model →
    ∃ endpoint url, known.endpoint = some endpoint ∧ Url.parse endpoint = .ok url ∧
      service.rankingUrl = .ok url ∧ url.text = endpoint
  of_unknown : (∀ known ∈ Catalog.hosted, known.id ≠ service.model) →
    ∃ url, Url.parse (baseUrlText settings) = .ok url ∧ service.rankingUrl = .ok url ∧
      url.text = baseUrlText settings
  unverifiedModel_iff : ∀ model, .unverifiedModel model ∈ logsOf trace ↔
    model = service.model ∧ (∀ known ∈ Catalog.hosted, known.id ≠ model) ∧
      Catalog.isInternal model = false

/-- What a run that looks for the hosted service comes to: nothing is asked, and the key decides. -/
structure FindsHosted [Url.Idna] {σ : Type} (settings : Settings) (run : Run σ Service) : Prop where
  requests_eq : requestsOf run.trace = []
  exists_iff : (∃ service, run.result = .ok service) ↔
    ∃ key, settings.apiKey = some key ∧ Text.isBlank key = false
  failure_eq : ∀ failure, run.result = .error failure → failure = .config .missingApiKey
  hostedBy : ∀ service, run.result = .ok service → HostedBy settings service run.trace

section Runs

variable [Url.Idna] {σ : Type} (channel : Channel σ) (state : σ) {settings : Settings}
  (hsize : settings.maxBatchSize ≠ 0)
  (hendpoint : Catalog.hosted.HasEndpoint (baseUrlText settings))

include hsize hendpoint

/-- Without a key the hosted service is not found. -/
theorem run_discover_of_no_key (hkey : settings.apiKey.bind Text.nonBlank = none) :
    (discover channel settings).run state = ⟨.error (.config .missingApiKey), state, []⟩ := by
  rw [run_discover_of_endpoint channel state hsize hendpoint, hkey, run_findHosted_none]
  rfl

/-- With a key it is found, and asks at the endpoint of its model. -/
theorem run_discover_of_key {key : String}
    (hkey : settings.apiKey.bind Text.nonBlank = some key) :
    ∃ service, (discover channel settings).run state =
        { result := .ok service
          state
          trace := (hostedEndpoint (baseUrlText settings) service.model).2.map .log } ∧
      service.model = (settings.model.bind Text.nonBlank).getD Catalog.defaultModel ∧
      ∃ url, Url.parse (hostedEndpoint (baseUrlText settings) service.model).1 = .ok url ∧
        url.text = (hostedEndpoint (baseUrlText settings) service.model).1 ∧
        service.rankingUrl = .ok url := by
  obtain ⟨baseUrl, hparse, htext, hrun⟩ :=
    run_findHosted_of_endpoint hendpoint (settings.model.bind Text.nonBlank) key state
  rw [run_discover_of_endpoint channel state hsize hendpoint, hkey, hrun]
  exact ⟨_, rfl, rfl, baseUrl, hparse, htext, rfl⟩

theorem hostedBy_of_discover {service : Service}
    (hfound : ((discover channel settings).run state).result = .ok service) :
    HostedBy settings service ((discover channel settings).run state).trace := by
  cases hkey : settings.apiKey.bind Text.nonBlank with
  | none =>
    rw [run_discover_of_no_key channel state hsize hendpoint hkey] at hfound
    contradiction
  | some key =>
    obtain ⟨found, hrun, hmodel, url, hparse, htext, hranking⟩ :=
      run_discover_of_key channel state hsize hendpoint hkey
    rw [hrun] at hfound ⊢
    obtain rfl : found = service := Except.ok.inj hfound
    -- The endpoint is the one that the catalog has for the model, else the configured one.
    rw [fst_hostedEndpoint] at hparse htext
    refine ⟨hmodel, ?_, ?_, ?_⟩
    · intro known hknown hid
      obtain ⟨endpoint, hown⟩ := Catalog.endpoint_of_mem_hosted hknown
      rw [← hid, Catalog.get?_hosted_of_mem hknown, Option.bind_some, hown] at hparse htext
      exact ⟨endpoint, url, hown, hparse, hranking, htext⟩
    · intro hunknown
      rw [Catalog.get?_eq_none_iff.2 hunknown] at hparse htext
      exact ⟨url, hparse, hranking, htext⟩
    · intro model
      rw [logsOf_logs]
      exact unverifiedModel_mem_hostedEndpoint_iff

theorem findsHosted_of_endpoint :
    FindsHosted settings ((discover channel settings).run state) := by
  cases hkey : settings.apiKey.bind Text.nonBlank with
  | none =>
    have hrun := run_discover_of_no_key channel state hsize hendpoint hkey
    refine ⟨?_, ?_, ?_, fun _ => hostedBy_of_discover channel state hsize hendpoint⟩
    · rw [hrun]
      rfl
    · rw [hrun]
      refine iff_of_false ?_ (bind_nonBlank_eq_none_iff.1 hkey)
      rintro ⟨service, hfound⟩
      contradiction
    · intro failure hfailure
      rw [hrun] at hfailure
      exact (Except.error.inj hfailure).symm
  | some key =>
    obtain ⟨service, hrun, -⟩ := run_discover_of_key channel state hsize hendpoint hkey
    refine ⟨?_, ?_, ?_, fun _ => hostedBy_of_discover channel state hsize hendpoint⟩
    · rw [hrun]
      exact requestsOf_logs _
    · rw [hrun]
      exact iff_of_true ⟨service, rfl⟩ ⟨key, bind_nonBlank_eq_some_iff.1 hkey⟩
    · intro failure hfailure
      rw [hrun] at hfailure
      contradiction

end Runs

/-- The hosted service is found by its endpoints, with slashes after them, and by nothing else.  A
key is all that can be missing then. -/
theorem discover_hosted [Url.Idna] {σ : Type} (channel : Channel σ) {settings : Settings}
    (hsize : 1 ≤ settings.maxBatchSize) (state : σ) :
    let run := (discover channel settings).run state
    (Catalog.IsHostedEndpoint (baseUrlText settings) → FindsHosted settings run) ∧
    (∀ service, run.result = .ok service →
      (service.isHosted = true ↔ Catalog.IsHostedEndpoint (baseUrlText settings))) ∧
    (channel.FailsRemotely →
      (run.result = .error (.config .missingApiKey) ↔
        Catalog.IsHostedEndpoint (baseUrlText settings) ∧
          ¬ ∃ key, settings.apiKey = some key ∧ Text.isBlank key = false) ∧
      ∀ endpoint reason,
        run.result ≠ .error (.config (.invalidHostedEndpoint endpoint reason))) := by
  intro run
  have hpositive : settings.maxBatchSize ≠ 0 := Nat.one_le_iff_ne_zero.1 hsize
  simp only [← Catalog.hasEndpoint_hosted_iff, ← bind_nonBlank_eq_none_iff]
  refine ⟨findsHosted_of_endpoint channel state hpositive, ?_, fun hchannel => ⟨⟨?_, ?_⟩, ?_⟩⟩
  · intro service hfound
    exact (settled_of_discover hfound).isHosted_iff
  · intro hmissing
    cases misconfigured_of_discover hchannel hmissing with
    | missingApiKey hendpoint hkey => exact ⟨hendpoint, hkey⟩
  · rintro ⟨hendpoint, hkey⟩
    exact congrArg Run.result (run_discover_of_no_key channel state hpositive hendpoint hkey)
  · intro endpoint reason hinvalid
    have hwrong := misconfigured_of_discover hchannel hinvalid
    contradiction

/-- Settings for the hosted service by the endpoint of one model, with slashes after it, and another
model. -/
def slashedSettings : Settings where
  model := some "nvidia/llama-3.2-nv-rerankqa-1b-v2"
  apiKey := some "key"
  baseUrl := some (Catalog.defaultEndpoint ++ "// ")

theorem discover_hosted_slashedSettings :
    let endpoint :=
      "https://ai.api.nvidia.com/v1/retrieval/nvidia/llama-3_2-nv-rerankqa-1b-v2/reranking"
    let run := (discover Channel.scripted slashedSettings).run []
    Catalog.IsHostedEndpoint (baseUrlText slashedSettings) ∧ FindsHosted slashedSettings run ∧
      (∃ service url, run.result = .ok service ∧ service.isHosted = true ∧
        service.rankingUrl = .ok url ∧ url.text = endpoint) ∧
      ∀ configured reason,
        run.result ≠ .error (.config (.invalidHostedEndpoint configured reason)) := by
  intro endpoint run
  have hendpoint : Catalog.IsHostedEndpoint (baseUrlText slashedSettings) :=
    ⟨_, List.mem_cons_self, Catalog.defaultEndpoint, 2, rfl, by decide +kernel⟩
  obtain ⟨hfinds, hisHosted, hfailures⟩ :=
    discover_hosted Channel.scripted (show 1 ≤ slashedSettings.maxBatchSize by decide) []
  obtain ⟨service, hfound⟩ := (hfinds hendpoint).exists_iff.2 ⟨"key", rfl, by decide⟩
  have hhosted := (hfinds hendpoint).hostedBy service hfound
  have hmodel : "nvidia/llama-3.2-nv-rerankqa-1b-v2" = service.model := by
    rw [hhosted.model_eq]
    decide +kernel
  obtain ⟨_, url, hown, -, hranking, htext⟩ :=
    hhosted.of_known (Catalog.entry _ endpoint) (by simp [Catalog.hosted, endpoint]) hmodel
  cases hown
  exact ⟨hendpoint, hfinds hendpoint,
    ⟨service, url, hfound, (hisHosted service hfound).2 hendpoint, hranking, htext⟩,
    (hfailures Channel.failsRemotely_scripted).2⟩

end Service

end Rerank
