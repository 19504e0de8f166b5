import Rerank.Proofs.Configuration
import Rerank.Proofs.Reply.Models

/-!
# Which model is chosen

A service of one's own is asked for its models, unless the configured model is internal.  A model
that is configured has to be among them.  If none is configured, the first one is chosen that is not
derived from another.  Everything else that can come of the request makes the search fail, and the
failure says what came of it.
-/

namespace Rerank

/-! ## Listings -/

namespace ModelEntry

/-- An entry names no model that it is derived from, or an empty one, or itself. -/
def IsBase (entry : ModelEntry) : Prop :=
  entry.base = none ∨ entry.base = some "" ∨ entry.base = some entry.id

theorem isBase_model_iff {entry : ModelEntry} : entry.model.isBase = true ↔ entry.IsBase := by
  rw [model_eq, Model.isBase, IsBase]
  cases entry.base with
  | none => simp
  | some base => simp

end ModelEntry

/-- A reply lists entries if it is a success and the member `data` of its body is an array of them,
as they are written. -/
structure Response.Lists (reply : Response) (entries : List ModelEntry) : Prop where
  success : 200 ≤ reply.status ∧ reply.status < 300
  data : ∃ members value, Json.parse reply.body = .ok (.object members) ∧
    Keyed.get? members "data" = some value ∧ Json.Listed ModelEntry.Written value entries

/-- What came of a request is a reply that lists entries. -/
def Listing (outcome : Except Failure Response) (entries : List ModelEntry) : Prop :=
  ∃ reply, outcome = .ok reply ∧ reply.Lists entries

/-- What came of a request is no listing, and this is what it is reported as. -/
inductive Unlisted : Except Failure Response → Failure → Prop
  | unanswered (failure : Failure) : Unlisted (.error failure) failure
  | refused {reply : Response} (hstatus : ¬ (200 ≤ reply.status ∧ reply.status < 300)) :
      Unlisted (.ok reply) (.status reply.status (Text.Utf8.decodeLossy reply.body))
  | unreadable {reply : Response} {failure : Failure}
      (hstatus : 200 ≤ reply.status ∧ reply.status < 300)
      (hparse : parseModels reply.body = .error failure) : Unlisted (.ok reply) failure

theorem parseModels_eq_ok_iff {body : List UInt8} {models : List Model} :
    parseModels body = .ok models ↔
      ∃ members value, Json.parse body = .ok (.object members) ∧
        Keyed.get? members "data" = some value ∧ ListsModels value models :=
  (readsMember_of_form (fun _ _ => ModelEntry.modelsOfJson_eq_ok_iff)
    fun _ => ReplyFault.noConfusion).ok_iff models

/-- The models of a listing are those of its entries. -/
theorem listed_eq_ok_iff_listing {outcome : Except Failure Response} {models : List Model} :
    listed outcome = .ok models ↔
      ∃ entries, Listing outcome entries ∧ models = entries.map ModelEntry.model := by
  have hmodels (entries : List ModelEntry) : entries.map ModelEntry.model =
      entries.map fun entry => { id := entry.id, baseModel := entry.base, endpoint := none } :=
    List.map_congr_left fun entry _ => entry.model_eq
  simp only [listed_eq_ok_iff, parseModels_eq_ok_iff, hmodels]
  constructor
  · rintro ⟨reply, hreply, hlow, hhigh, members, value, hparse, hdata, entries, hlisted, hmap⟩
    exact ⟨entries, ⟨reply, hreply, ⟨hlow, hhigh⟩, members, value, hparse, hdata, hlisted⟩, hmap⟩
  · rintro ⟨entries, ⟨reply, hreply, ⟨hlow, hhigh⟩, members, value, hparse, hdata, hlisted⟩, hmap⟩
    exact ⟨reply, hreply, hlow, hhigh, members, value, hparse, hdata, entries, hlisted, hmap⟩

theorem listed_eq_error_iff_unlisted {outcome : Except Failure Response} {failure : Failure} :
    listed outcome = .error failure ↔ Unlisted outcome failure := by
  constructor
  · intro hlisted
    simp only [listed, except_bind_eq_error_iff, Response.successful_eq_error_iff,
      Response.successful_eq_ok_iff] at hlisted
    obtain rfl | ⟨reply, rfl, ⟨hstatus, rfl⟩ | ⟨_, ⟨rfl, hstatus⟩, hparse⟩⟩ := hlisted
    · exact .unanswered failure
    · exact .refused hstatus
    · exact .unreadable hstatus hparse
  · intro hunlisted
    cases hunlisted with
    | unanswered => rfl
    | refused hstatus =>
      exact except_bind_eq_error_iff.2
        (.inr ⟨_, rfl, except_bind_eq_error_iff.2
          (.inl (Response.successful_eq_error_iff.2 ⟨hstatus, rfl⟩))⟩)
    | unreadable hstatus hparse =>
      exact except_bind_eq_error_iff.2
        (.inr ⟨_, rfl, except_bind_eq_error_iff.2
          (.inr ⟨_, Response.successful_eq_ok_iff.2 ⟨rfl, hstatus⟩, hparse⟩)⟩)

namespace Service

/-! ## Choosing among the entries -/

/-- Whether an entry may be chosen: it has the configured name or, if none is configured, is not
derived from another. -/
def suits (configured : Option String) (entry : ModelEntry) : Bool :=
  match configured with
  | some model => entry.id == model
  | none => entry.model.isBase

/-- What is wrong if no entry may be chosen. -/
def unsuited (configured : Option String) : ConfigFault :=
  match configured with
  | some model => .modelNotListed model
  | none => .noModelListed

theorem suits_some_iff {model : String} {entry : ModelEntry} :
    suits (some model) entry = true ↔ entry.id = model :=
  beq_iff_eq

theorem suits_none_iff {entry : ModelEntry} : suits none entry = true ↔ entry.IsBase :=
  ModelEntry.isBase_model_iff

/-- The model of the first entry that may be chosen is chosen. -/
theorem chooseModel_map (configured : Option String) (entries : List ModelEntry) :
    chooseModel configured (entries.map ModelEntry.model) =
      match entries.find? (suits configured) with
      | some entry => .ok entry.id
      | none => .error (unsuited configured) := by
  cases configured with
  | some model =>
    have hany : (entries.map ModelEntry.model).any (·.id == model) =
        (entries.find? (suits (some model))).isSome := by
      rw [List.any_map, List.isSome_find?]
      rfl
    rw [chooseModel, hany]
    cases hfound : entries.find? (suits (some model)) with
    | none => rfl
    | some entry =>
      have hid : entry.id = model := suits_some_iff.1 (List.find?_some hfound)
      exact congrArg Except.ok hid.symm
  | none =>
    have hcomp : Model.isBase ∘ ModelEntry.model = suits none := rfl
    rw [chooseModel, List.find?_map, hcomp]
    cases entries.find? (suits none) <;> rfl

/-- The model that is chosen, by what came of the request for the models. -/
def selection (configured : Option String) (outcome : Except Failure Response) :
    Except Failure String :=
  listed outcome >>= fun models => (chooseModel configured models).mapError .config

section Selection

variable {configured : Option String} {outcome : Except Failure Response}

theorem selection_of_unlisted {failure : Failure} (hunlisted : Unlisted outcome failure) :
    selection configured outcome = .error failure := by
  rw [selection, listed_eq_error_iff_unlisted.2 hunlisted]
  rfl

theorem selection_of_listing {entries : List ModelEntry} (hlisting : Listing outcome entries) :
    selection configured outcome =
      match entries.find? (suits configured) with
      | some entry => .ok entry.id
      | none => .error (.config (unsuited configured)) := by
  rw [selection, listed_eq_ok_iff_listing.2 ⟨entries, hlisting, rfl⟩]
  dsimp only [bind, Except.bind]
  rw [chooseModel_map]
  cases entries.find? (suits configured) <;> rfl

/-- A model is chosen only from a listing. -/
theorem find?_of_selection {model : String}
    (hselection : selection configured outcome = .ok model) :
    ∃ entries entry, Listing outcome entries ∧
      entries.find? (suits configured) = some entry ∧ entry.id = model := by
  obtain ⟨models, hlisted, -⟩ := except_bind_eq_ok_iff.1 hselection
  obtain ⟨entries, hlisting, -⟩ := listed_eq_ok_iff_listing.1 hlisted
  rw [selection_of_listing hlisting] at hselection
  split at hselection
  · next entry hfound => exact ⟨entries, entry, hlisting, hfound, Except.ok.inj hselection⟩
  · contradiction

end Selection

/-! ## Runs that look for a service of one's own -/

/-- The record about a model that is chosen because none is configured. -/
def choiceRecords (configured : Option String) (selected : Except Failure String) :
    List LogRecord :=
  match configured, selected with
  | none, .ok chosen => [.modelChosen chosen]
  | _, _ => []

/-- What a run that looks for a service comes to, if it asked for the models and `outcome` came of
that.  The records are those about the base url. -/
structure Selects {σ : Type} (configured : Option String) (records : List LogRecord)
    (request : Request) (outcome : Except Failure Response) (run : Run σ Service) : Prop where
  requests_eq : requestsOf run.trace = [request]
  /-- A model that is configured has to be listed under its name, be it derived or not. -/
  of_configured : ∀ model, configured = some model →
    ((∃ service, run.result = .ok service) ↔
      ∃ entries, Listing outcome entries ∧ ∃ entry ∈ entries, entry.id = model) ∧
    (∀ service, run.result = .ok service → service.model = model) ∧
    ∀ entries, Listing outcome entries → (∀ entry ∈ entries, entry.id ≠ model) →
      run.result = .error (.config (.modelNotListed model))
  /-- Otherwise it is the first that is listed and not derived from another. -/
  of_unconfigured : configured = none →
    ((∃ service, run.result = .ok service) ↔
      ∃ entries, Listing outcome entries ∧ ∃ entry ∈ entries, entry.IsBase) ∧
    (∀ service, run.result = .ok service →
      (∃ front entry back, Listing outcome (front ++ entry :: back) ∧
        (∀ other ∈ front, ¬ other.IsBase) ∧ entry.IsBase ∧ service.model = entry.id) ∧
      logsOf run.trace = records ++ [.modelChosen service.model]) ∧
    ∀ entries, Listing outcome entries → (∀ entry ∈ entries, ¬ entry.IsBase) →
      run.result = .error (.config .noModelListed)
  of_unlisted : ∀ failure, Unlisted outcome failure → run.result = .error failure ∧
    ((∀ cause, outcome = .error cause → cause.category = .remote) → failure.category = .remote)
  modelChosen_iff : ∀ chosen, .modelChosen chosen ∈ logsOf run.trace ↔
    configured = none ∧ ∃ service, run.result = .ok service ∧ service.model = chosen

section Selected

variable {σ : Type} {configured : Option String} {outcome : Except Failure Response}
  {run : Run σ Service} (hresult : run.result.map Service.model = selection configured outcome)

include hresult

/-- The model of a service that is found is that of the first entry that may be chosen. -/
theorem find?_of_result {service : Service} (hfound : run.result = .ok service) :
    ∃ entries entry, Listing outcome entries ∧
      entries.find? (suits configured) = some entry ∧ entry.id = service.model := by
  apply find?_of_selection
  rw [← hresult, hfound]
  rfl

/-- A service is found if there is an entry that may be chosen, and only then. -/
theorem exists_service_iff :
    (∃ service, run.result = .ok service) ↔
      ∃ entries, Listing outcome entries ∧ ∃ entry ∈ entries, suits configured entry = true := by
  constructor
  · rintro ⟨service, hfound⟩
    obtain ⟨entries, entry, hlisting, hfirst, -⟩ := find?_of_result hresult hfound
    exact ⟨entries, hlisting, entry, List.mem_of_find?_eq_some hfirst, List.find?_some hfirst⟩
  · rintro ⟨entries, hlisting, hsuited⟩
    obtain ⟨entry, hfirst⟩ := Option.isSome_iff_exists.1 (List.find?_isSome.2 hsuited)
    rw [selection_of_listing hlisting, hfirst] at hresult
    obtain ⟨service, hfound, -⟩ := except_map_eq_ok_iff.1 hresult
    exact ⟨service, hfound⟩

theorem result_of_unsuited {entries : List ModelEntry} (hlisting : Listing outcome entries)
    (hnone : ∀ entry ∈ entries, ¬ suits configured entry = true) :
    run.result = .error (.config (unsuited configured)) := by
  rw [selection_of_listing hlisting, List.find?_eq_none.2 hnone] at hresult
  exact except_map_eq_error_iff.1 hresult

theorem selects_of_result {records : List LogRecord} {request : Request}
    (htrace : run.trace = records.map .log ++ [.request request, Channel.observed outcome] ++
      (choiceRecords configured (selection configured outcome)).map .log)
    (hrecords : ∀ chosen, .modelChosen chosen ∉ records) :
    Selects configured records request outcome run := by
  have hlogs : logsOf run.trace =
      records ++ choiceRecords configured (run.result.map Service.model) := by
    rw [htrace, hresult, logsOf_append, logsOf_append, logsOf_logs, logsOf_logs, logsOf_exchange,
      List.append_nil]
  constructor
  case requests_eq =>
    rw [htrace, requestsOf_append, requestsOf_append, requestsOf_logs, requestsOf_logs,
      requestsOf_exchange, List.nil_append, List.append_nil]
  case of_configured =>
    rintro model rfl
    refine ⟨?_, ?_, ?_⟩
    · simpa only [suits_some_iff] using exists_service_iff hresult
    · intro service hfound
      obtain ⟨entries, entry, -, hfirst, hid⟩ := find?_of_result hresult hfound
      rw [← hid]
      exact suits_some_iff.1 (List.find?_some hfirst)
    · intro entries hlisting hnone
      refine result_of_unsuited hresult hlisting fun entry hentry => ?_
      exact mt suits_some_iff.1 (hnone entry hentry)
  case of_unconfigured =>
    rintro rfl
    refine ⟨?_, ?_, ?_⟩
    · simpa only [suits_none_iff] using exists_service_iff hresult
    · intro service hfound
      refine ⟨?_, by rw [hlogs, hfound]; rfl⟩
      obtain ⟨entries, entry, hlisting, hfirst, hid⟩ := find?_of_result hresult hfound
      obtain ⟨hsuits, front, back, rfl, hfront⟩ := List.find?_eq_some_iff_append.1 hfirst
      refine ⟨front, entry, back, hlisting, fun other hother => ?_, suits_none_iff.1 hsuits,
        hid.symm⟩
      rw [← suits_none_iff]
      simpa using hfront other hother
    · intro entries hlisting hnone
      refine result_of_unsuited hresult hlisting fun entry hentry => ?_
      exact mt suits_none_iff.1 (hnone entry hentry)
  case of_unlisted =>
    intro failure hunlisted
    rw [selection_of_unlisted hunlisted] at hresult
    refine ⟨except_map_eq_error_iff.1 hresult, fun hremote => ?_⟩
    exact category_of_listed hremote (listed_eq_error_iff_unlisted.2 hunlisted)
  case modelChosen_iff =>
    intro chosen
    rw [hlogs, List.mem_append, or_iff_right (hrecords chosen)]
    cases configured with
    | some model => simp [choiceRecords]
    | none => cases run.result <;> simp [choiceRecords, Except.map, eq_comm]

end Selected

theorem modelChosen_not_mem_of_normalize [Url.Idna] {raw : String} {base : Url}
    {records : List LogRecord} (hnormal : Endpoint.normalize raw = .ok (base, records))
    (chosen : String) :
    .modelChosen chosen ∉ records := by
  rw [Endpoint.normalize] at hnormal
  split at hnormal
  · contradiction
  split at hnormal
  · cases hnormal
    split <;> simp
  · contradiction

/-- With a key that a header can hold there is a request for the models of every base url. -/
theorem exists_modelsRequest [Url.Idna] {raw : String} {base : Url} {records : List LogRecord}
    (hnormal : Endpoint.normalize raw = .ok (base, records)) {apiKey : Option String}
    {headers : Headers} (hheaders : Headers.forKey apiKey = .ok headers) :
    ∃ request, modelsRequest base apiKey = .ok request ∧ request.method = "GET" ∧
      Endpoint.modelsUrl base = .ok request.url ∧ request.headers = headers := by
  obtain ⟨url, hurl⟩ := Endpoint.exists_modelsUrl_of_normalize hnormal
  refine ⟨{ url, headers, payload := none }, ?_, rfl, hurl, rfl⟩
  exact modelsRequest_eq_ok_iff.2 ⟨hurl, hheaders, rfl⟩

section Runs

variable [Url.Idna] {σ : Type} (channel : Channel σ) (state : σ) {settings : Settings} {base : Url}
  {records : List LogRecord} (hsize : settings.maxBatchSize ≠ 0)
  (hnone : ¬ Catalog.hosted.HasEndpoint (baseUrlText settings))
  (hnormal : Endpoint.normalize (baseUrlText settings) = .ok (base, records))

include hsize hnone hnormal

/-- An internal model is taken as it is, and nothing is asked. -/
theorem run_discover_of_internal {model : String} (hinternal : Catalog.isInternal model = true)
    (hmodel : settings.model.bind Text.nonBlank = some model) :
    ∃ service, service.model = model ∧ (discover channel settings).run state =
      { result := .ok service
        state
        trace := records.map .log } := by
  have hkept : (settings.model.bind Text.nonBlank).filter Catalog.isInternal = some model := by
    rw [hmodel, Option.filter_some, if_pos hinternal]
  rw [run_discover_of_no_endpoint channel state hsize hnone,
    run_findSelfHosted_of_internal channel state hnormal hkept]
  exact ⟨_, rfl, rfl⟩

/-- What is selected is the model of the service that is found, and it is logged if none was
configured. -/
theorem run_discover_of_listed {request : Request}
    (hmodel : (settings.model.bind Text.nonBlank).filter Catalog.isInternal = none)
    (hrequest : modelsRequest base (settings.apiKey.bind Text.nonBlank) = .ok request) :
    let configured := settings.model.bind Text.nonBlank
    let outcome := (channel.exchange request state).1
    let run := (discover channel settings).run state
    run.result.map Service.model = selection configured outcome ∧
      run.trace = records.map .log ++ [.request request, Channel.observed outcome] ++
        (choiceRecords configured (selection configured outcome)).map .log := by
  rw [run_discover_of_no_endpoint channel state hsize hnone,
    run_findSelfHosted_of_listed channel state hnormal hmodel, Action.run_fetchModels, hrequest]
  dsimp only [Run.result_map, Run.trace_map]
  -- From here on only what came of the request and the configured model matter.
  generalize (channel.exchange request state).1 = outcome
  generalize settings.model.bind Text.nonBlank = configured
  rw [selection]
  cases listed outcome with
  | error failure => cases configured <;> exact ⟨rfl, rfl⟩
  | ok models =>
    dsimp only [bind, Except.bind]
    cases chooseModel configured models <;> cases configured <;> exact ⟨rfl, rfl⟩

end Runs

/-- A service of one's own is found with an internal model without asking.  With any other setting
for the model, what came of one request for the models decides which model is chosen, if any. -/
theorem discover_selects [Url.Idna] {σ : Type} (channel : Channel σ) {settings : Settings}
    (hsize : 1 ≤ settings.maxBatchSize)
    (hnone : ¬ Catalog.hosted.HasEndpoint (baseUrlText settings)) {base : Url}
    {records : List LogRecord}
    (hnormal : Endpoint.normalize (baseUrlText settings) = .ok (base, records)) {headers : Headers}
    (hheaders : Headers.forKey (settings.apiKey.bind Text.nonBlank) = .ok headers) (state : σ) :
    let configured := settings.model.bind Text.nonBlank
    let run := (discover channel settings).run state
    (∀ model, configured = some model → Catalog.isInternal model = true →
      (∃ service, run.result = .ok service ∧ service.model = model) ∧ run.state = state ∧
        run.trace = records.map .log ∧ ∀ chosen, .modelChosen chosen ∉ logsOf run.trace) ∧
    ((∀ model, configured = some model → Catalog.isInternal model = false) →
      ∃ request, request.method = "GET" ∧ Endpoint.modelsUrl base = .ok request.url ∧
        request.headers = headers ∧
        Selects configured records request (channel.exchange request state).1 run) := by
  intro configured run
  have hpositive : settings.maxBatchSize ≠ 0 := Nat.one_le_iff_ne_zero.1 hsize
  have hrecords := modelChosen_not_mem_of_normalize hnormal
  constructor
  · intro model hmodel hinternal
    obtain ⟨service, hservice, hrun⟩ :=
      run_discover_of_internal channel state hpositive hnone hnormal hinternal hmodel
    have hrun : run = ⟨.ok service, state, records.map .log⟩ := hrun
    rw [hrun]
    refine ⟨⟨service, rfl, hservice⟩, rfl, rfl, fun chosen => ?_⟩
    rw [logsOf_logs]
    exact hrecords chosen
  · intro hnotInternal
    have hfilter : configured.filter Catalog.isInternal = none := by
      cases hmodel : configured with
      | none => rfl
      | some model => simp [Option.filter, hnotInternal model hmodel]
    obtain ⟨request, hrequest, hget, hurl, hsame⟩ := exists_modelsRequest hnormal hheaders
    obtain ⟨hresult, htrace⟩ :=
      run_discover_of_listed channel state hpositive hnone hnormal hfilter hrequest
    exact ⟨request, hget, hurl, hsame, selects_of_result hresult htrace hrecords⟩

/-- Of two models, the first of which is derived from the second, the second is chosen. -/
theorem discover_selects_localSettings :
    let raw := "http://bücher.example:8000/"
    let run := (discover Channel.scripted localSettings).run [listingReply]
    Endpoint.normalize raw = .ok (localService.baseUrl, [.unversionedBaseUrl raw]) ∧
      run.result = .ok localService ∧ .modelChosen "base" ∈ logsOf run.trace ∧
      ∃ request, request.method = "GET" ∧
        Selects none [.unversionedBaseUrl raw] request (.ok listingReply) run := by
  intro raw run
  have hraw : baseUrlText localSettings = raw := by decide +kernel
  have hnone : ¬ Catalog.hosted.HasEndpoint (baseUrlText localSettings) := by
    rw [← Catalog.isEndpoint_iff, hraw]
    decide +kernel
  have hnormal : Endpoint.normalize raw =
      .ok (localService.baseUrl, [.unversionedBaseUrl raw]) := by
    decide +kernel
  have hfound : run.result = .ok localService := result_discover_localSettings
  have hmodel : localSettings.model.bind Text.nonBlank = none := by decide +kernel
  have hheaders : Headers.forKey (localSettings.apiKey.bind Text.nonBlank) =
      .ok ⟨some "Bearer key"⟩ := by
    decide +kernel
  obtain ⟨-, hlisted⟩ := discover_selects Channel.scripted (by decide) hnone (hraw ▸ hnormal)
    hheaders [listingReply]
  rw [hmodel] at hlisted
  obtain ⟨request, hget, -, -, hselects⟩ := hlisted nofun
  exact ⟨hnormal, hfound, (hselects.modelChosen_iff "base").2 ⟨rfl, _, hfound, rfl⟩,
    request, hget, hselects⟩

end Service

end Rerank
