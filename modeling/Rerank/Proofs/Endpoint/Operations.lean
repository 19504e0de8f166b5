import Rerank.Proofs.Discovery.Faults

/-!
# The urls of operations

A service of one's own lists its models and scores passages at urls that go on where its base url
ends.  Both urls differ from the base url in their paths only.  No client is ever told that one of
them could not be built.
-/

namespace Rerank

/-- The url of an operation could not be built. -/
inductive ConfigFault.IsDerivation : ConfigFault → Prop
  | models (raw : String) (reason : Url.ParseError) : IsDerivation (.invalidModelsUrl raw reason)
  | ranking (raw : String) (reason : Url.ParseError) : IsDerivation (.invalidRankingUrl raw reason)

namespace Endpoint

/-- A url that differs from a base url in its path only, which goes on with a name. -/
structure Extends (base : Url) (name : String) (url : Url) : Prop where
  scheme_eq : url.scheme = base.scheme
  /-- The authority is user name, password, host and port. -/
  authority_eq : url.authority = base.authority
  path_eq : url.path.text = base.path.text ++ "/" ++ name
  query_eq : url.query = none ∧ base.query = none
  fragment_eq : url.fragment = none ∧ base.fragment = none

/-- Where the services under a base url are asked. -/
structure HasOperations [Url.Idna] (base : Url) : Prop where
  models : ∃ url, modelsUrl base = .ok url ∧ Extends base "models" url
  ranking : ∀ service : Service, service.isHosted = false → service.baseUrl = base →
    ∃ url, service.rankingUrl = .ok url ∧ Extends base "ranking" url

theorem IsBelow.extends {base url : Url} {name : String} (hbelow : IsBelow base name url)
    (hquery : base.query = none) (hfragment : base.fragment = none) : Extends base name url := by
  obtain ⟨hscheme, hauthority, hnoQuery, hnoFragment, -, segments, hbase, hpath⟩ := hbelow
  refine ⟨hscheme, hauthority, ?_, ⟨hnoQuery, hquery⟩, ⟨hnoFragment, hfragment⟩⟩
  apply String.toList_inj.1
  rw [hpath, hbase, Url.Path.toList_text_concat]
  simp

theorem scheme_of_normalize [Url.Idna] {raw : String} {base : Url} {records : List LogRecord}
    (hnormal : normalize raw = .ok (base, records)) :
    ∃ url, Url.parse raw = .ok url ∧ url.scheme = base.scheme := by
  obtain ⟨url, segments, hparse, -, rfl⟩ := normalize_eq_ok hnormal
  refine ⟨url, hparse, ?_⟩
  rw [Url.withSegments]
  split <;> rfl

/-- Both operations of a base url that requests can be sent to are found below it. -/
theorem hasOperations_of_normalize [Url.Idna] {raw : String} {base : Url} {records : List LogRecord}
    (hnormal : normalize raw = .ok (base, records))
    (hhttp : base.scheme = "http" ∨ base.scheme = "https") : HasOperations base := by
  obtain ⟨url, hparse, hsame⟩ := scheme_of_normalize hnormal
  rw [← hsame] at hhttp
  obtain ⟨port, hscheme⟩ := exists_special_of_http hhttp
  have hform := normalForm_of_normalize hparse hscheme hnormal
  constructor
  case models =>
    obtain ⟨found, hfound, hbelow, -⟩ := exists_modelsUrl hnormal hparse hscheme
    exact ⟨found, hfound, hbelow.extends hform.query_eq hform.fragment_eq⟩
  case ranking =>
    rintro service hhosted rfl
    obtain ⟨found, hfound, hbelow, -⟩ := exists_rankingUrl hnormal hparse hscheme
    refine ⟨found, ?_, hbelow.extends hform.query_eq hform.fragment_eq⟩
    rw [Service.rankingUrl, if_neg (by simp [hhosted]), hfound]

end Endpoint

namespace Reranker

variable [Url.Idna] {σ : Type} {channel : Channel σ} {settings : Settings} {state : σ}
  {client : Reranker}

theorem not_isDerivation_of_connect (hchannel : channel.FailsRemotely) {fault : ConfigFault}
    (hfailure : ((connect channel settings).run state).result = .error (.config fault)) :
    ¬ fault.IsDerivation := by
  rw [run_connect, Run.result_map, except_map_eq_error_iff] at hfailure
  have hwrong := Service.misconfigured_of_discover hchannel hfailure
  intro hderivation
  cases hderivation <;> contradiction

theorem not_isDerivation_of_session (hchannel : channel.FailsRemotely)
    (hclient : ((connect channel settings).run state).result = .ok client) {later : σ}
    {steps : List (Step σ)} {run : Run σ Outcome} (hrun : run ∈ session channel client later steps)
    {fault : ConfigFault} (hfailure : run.result = .error (.config fault)) :
    ¬ fault.IsDerivation := by
  have hfound := discover_of_connect hclient
  have hheaders := forKey_of_session hchannel rfl (Service.maxBatchSize_pos_of_discover hfound)
    (Service.built_of_discover hfound) hrun hfailure
  -- The key is all that can still be wrong.
  cases Headers.eq_unusableApiKey_of_forKey hheaders
  exact nofun

end Reranker

namespace Endpoint

/-- The operations of a base url are below it if requests can be sent there.  The base url of a
client of a service of its own is such a base url, and the urls of its operations can be built with
any scheme.  If the channel fails with remote failures only, neither connecting nor a later call
fails to build one. -/
theorem operations_extend_base [Url.Idna] :
    (∀ raw base records, normalize raw = .ok (base, records) →
      base.scheme = "http" ∨ base.scheme = "https" → HasOperations base) ∧
    ∀ (σ : Type) (channel : Channel σ) (settings : Settings) (state : σ),
      (∀ client, ((Reranker.connect channel settings).run state).result = .ok client →
        client.service.isHosted = false →
          (∃ raw records, normalize raw = .ok (client.service.baseUrl, records)) ∧
          (∃ url, modelsUrl client.service.baseUrl = .ok url) ∧
          ∃ url, client.service.rankingUrl = .ok url) ∧
      (channel.FailsRemotely →
        (∀ fault, ((Reranker.connect channel settings).run state).result =
          .error (.config fault) → ¬ fault.IsDerivation) ∧
        ∀ client, ((Reranker.connect channel settings).run state).result = .ok client →
          ∀ (later : σ) (steps : List (Step σ)), ∀ run ∈ session channel client later steps,
            ∀ fault, run.result = .error (.config fault) → ¬ fault.IsDerivation) := by
  refine ⟨fun _ _ _ => hasOperations_of_normalize, ?_⟩
  intro σ channel settings state
  constructor
  · intro client hclient hhosted
    have hfound := Reranker.discover_of_connect hclient
    have hbuilt := Service.built_of_discover hfound
    exact ⟨⟨_, (Service.settled_of_discover hfound).of_selfHosted hhosted⟩,
      hbuilt.modelsUrl hhosted, hbuilt.rankingUrl⟩
  · intro hchannel
    refine ⟨fun _ => Reranker.not_isDerivation_of_connect hchannel, ?_⟩
    intro client hclient later steps run hrun fault hfailure
    exact Reranker.not_isDerivation_of_session hchannel hclient hrun hfailure

/-- A client of a service of its own that listed its models. -/
theorem operations_extend_base_localService :
    let client : Reranker := { service := Service.localService, sink := .logging }
    ((Reranker.connect Channel.scripted Service.localSettings).run
        [Service.listingReply]).result = .ok client ∧
      HasOperations client.service.baseUrl ∧
      ∀ replies steps, ∀ run ∈ session Channel.scripted client replies steps,
        ∀ fault, run.result = .error (.config fault) → ¬ fault.IsDerivation := by
  intro client
  have hclient := Reranker.result_connect_localSettings
  obtain ⟨hoperations, hclients⟩ := operations_extend_base
  obtain ⟨hbase, hfailures⟩ :=
    hclients _ Channel.scripted Service.localSettings [Service.listingReply]
  obtain ⟨⟨raw, records, hnormal⟩, -, -⟩ := hbase client hclient rfl
  obtain ⟨-, hsession⟩ := hfailures Channel.failsRemotely_scripted
  exact ⟨hclient, hoperations raw _ records hnormal (.inl rfl), hsession client hclient⟩

end Endpoint

end Rerank
