import Rerank.Proofs.Configuration
import Rerank.Proofs.Destinations
import Rerank.Proofs.Endpoint.Normal

/-!
# What can be wrong with settings

A service is not found if something is wrong with the settings, or if it cannot be asked for its
models.  What can be wrong with the settings is listed here, each with what it takes.  The urls that
are made while a service is looked for can always be built, so that they are not among it.
-/

namespace Rerank.Service

/-- What can be wrong with settings while a service is looked for. -/
inductive Misconfigured (settings : Settings) : ConfigFault → Prop
  | zeroBatchSize (hsize : settings.maxBatchSize = 0) : Misconfigured settings .zeroBatchSize
  | missingApiKey (hendpoint : Catalog.hosted.HasEndpoint (baseUrlText settings))
      (hkey : settings.apiKey.bind Text.nonBlank = none) : Misconfigured settings .missingApiKey
  | invalidBaseUrl (hnone : ¬ Catalog.hosted.HasEndpoint (baseUrlText settings)) :
      Misconfigured settings (.invalidBaseUrl (baseUrlText settings))
  | unusableApiKey (hnone : ¬ Catalog.hosted.HasEndpoint (baseUrlText settings))
      (hkey : Headers.forKey (settings.apiKey.bind Text.nonBlank) =
        .error (.config .unusableApiKey)) : Misconfigured settings .unusableApiKey
  | modelNotListed {model : String}
      (hnone : ¬ Catalog.hosted.HasEndpoint (baseUrlText settings))
      (hmodel : settings.model.bind Text.nonBlank = some model) :
      Misconfigured settings (.modelNotListed model)
  | noModelListed (hnone : ¬ Catalog.hosted.HasEndpoint (baseUrlText settings))
      (hmodel : settings.model.bind Text.nonBlank = none) : Misconfigured settings .noModelListed

theorem chooseModel_eq_error {configured : Option String} {models : List Model}
    {fault : ConfigFault} (hchosen : chooseModel configured models = .error fault) :
    (∃ model, configured = some model ∧ fault = .modelNotListed model) ∨
      configured = none ∧ fault = .noModelListed := by
  cases configured with
  | some model =>
    rw [chooseModel] at hchosen
    split at hchosen
    · contradiction
    · exact .inl ⟨model, rfl, (Except.error.inj hchosen).symm⟩
  | none =>
    rw [chooseModel] at hchosen
    split at hchosen
    · contradiction
    · exact .inr ⟨rfl, (Except.error.inj hchosen).symm⟩

section Stages

variable [Url.Idna] {σ : Type} {channel : Channel σ} {model apiKey : Option String} {state : σ}
  {failure : Failure}

/-- With a key the hosted service is always found: its endpoints are urls. -/
theorem run_findHosted_of_endpoint {configured : String}
    (hendpoint : Catalog.hosted.HasEndpoint configured) (model : Option String) (key : String)
    (state : σ) :
    let chosen := model.getD Catalog.defaultModel
    let endpoint := hostedEndpoint configured chosen
    ∃ baseUrl, Url.parse endpoint.1 = .ok baseUrl ∧ baseUrl.text = endpoint.1 ∧
      (findHosted model (some key) configured).run state =
        { result := .ok { model := chosen, baseUrl, deployment := .hosted key }
          state
          trace := endpoint.2.map .log } := by
  intro chosen endpoint
  obtain ⟨baseUrl, hparse, htext⟩ :=
    Catalog.exists_parse_of_hasEndpoint (hasEndpoint_hostedEndpoint hendpoint chosen)
  refine ⟨baseUrl, hparse, htext, ?_⟩
  rw [run_findHosted_some]
  dsimp only
  rw [hparse]

theorem findHosted_eq_error {configured : String}
    (hendpoint : Catalog.hosted.HasEndpoint configured)
    (hfailure : ((findHosted model apiKey configured).run state).result = .error failure) :
    apiKey = none ∧ failure = .config .missingApiKey := by
  cases apiKey with
  | none =>
    rw [run_findHosted_none] at hfailure
    exact ⟨rfl, (Except.error.inj hfailure).symm⟩
  | some key =>
    obtain ⟨baseUrl, -, -, hrun⟩ := run_findHosted_of_endpoint hendpoint model key state
    rw [hrun] at hfailure
    contradiction

/-- A service of one's own is not found if its base url, the key or the model is wrong. -/
theorem findSelfHosted_eq_error (hchannel : channel.FailsRemotely) {raw : String}
    (hconfig : failure.category = .config)
    (hfailure : ((findSelfHosted channel model apiKey raw).run state).result = .error failure) :
    failure = .config (.invalidBaseUrl raw) ∨ Headers.forKey apiKey = .error failure ∨
      ∃ models fault, chooseModel model models = .error fault ∧ failure = .config fault := by
  cases hnormal : Endpoint.normalize raw with
  | error cause =>
    rw [run_findSelfHosted_of_error channel state hnormal] at hfailure
    cases hfailure
    exact .inl (Endpoint.eq_invalidBaseUrl_of_normalize hnormal)
  | ok normal =>
    obtain ⟨base, records⟩ := normal
    cases hmodel : model.filter Catalog.isInternal with
    | some internal =>
      rw [run_findSelfHosted_of_internal channel state hnormal hmodel] at hfailure
      contradiction
    | none =>
      rw [run_findSelfHosted_of_listed channel state hnormal hmodel] at hfailure
      dsimp only at hfailure
      obtain hlisting | ⟨models, -, hchosen⟩ :=
        except_bind_eq_error_iff.1 (except_map_eq_error_iff.1 hfailure)
      · exact .inr (.inl (Action.forKey_of_fetchModels hchannel hconfig
          (Endpoint.exists_modelsUrl_of_normalize hnormal) hlisting))
      · obtain ⟨fault, hchoose, rfl⟩ :=
          except_mapError_eq_error_iff.1 (except_map_eq_error_iff.1 hchosen)
        exact .inr (.inr ⟨models, fault, hchoose, rfl⟩)

end Stages

/-- If the channel fails with remote failures only, all that can go wrong for the configuration is
what can be wrong with the settings. -/
theorem misconfigured_of_discover [Url.Idna] {σ : Type} {channel : Channel σ} {settings : Settings}
    {state : σ} {fault : ConfigFault} (hchannel : channel.FailsRemotely)
    (hfailure : ((discover channel settings).run state).result = .error (.config fault)) :
    Misconfigured settings fault := by
  by_cases hsize : settings.maxBatchSize = 0
  · rw [run_discover_of_zero channel state hsize] at hfailure
    cases hfailure
    exact .zeroBatchSize hsize
  by_cases hendpoint : Catalog.hosted.HasEndpoint (baseUrlText settings)
  · rw [run_discover_of_endpoint channel state hsize hendpoint] at hfailure
    obtain ⟨hkey, hmissing⟩ := findHosted_eq_error hendpoint (except_map_eq_error_iff.1 hfailure)
    cases hmissing
    exact .missingApiKey hendpoint hkey
  · rw [run_discover_of_no_endpoint channel state hsize hendpoint] at hfailure
    obtain hbase | hheaders | ⟨models, wrong, hchosen, hwrong⟩ :=
      findSelfHosted_eq_error hchannel rfl (except_map_eq_error_iff.1 hfailure)
    · cases hbase
      exact .invalidBaseUrl hendpoint
    · cases Headers.eq_unusableApiKey_of_forKey hheaders
      exact .unusableApiKey hendpoint hheaders
    · cases hwrong
      obtain ⟨model, hmodel, rfl⟩ | ⟨hmodel, rfl⟩ := chooseModel_eq_error hchosen
      · exact .modelNotListed hendpoint hmodel
      · exact .noModelListed hendpoint hmodel

end Rerank.Service
