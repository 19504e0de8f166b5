import Rerank.Proofs.Ranking.Basic

/-!
# The requests of a call

A call sends its texts in order, batch after batch, and stops right after the first batch whose
exchange fails.  All its requests are alike but for the passages, and the passages of all of them
together are the texts, or the first batches of them if the call fails.  The body of each request
has the members that its batch asks for and no others.
-/

namespace Rerank

/-- The passages that a request has scored. -/
def Request.passages (request : Request) : List String :=
  (request.payload.map Payload.passages).getD []

/-- The members of the body that has a service score texts against a query.  Every text stands in an
object of its own, and what is done with long passages is said only if it is configured. -/
inductive Service.BodyMember (service : Service) (query : String) (texts : List String) :
    String → Json → Prop
  | model : BodyMember service query texts "model" (.string service.model)
  | query : BodyMember service query texts "query" (.object [("text", .string query)])
  | passages : BodyMember service query texts "passages"
      (.array (texts.map fun text => .object [("text", .string text)]))
  | refused (htruncation : service.truncation = some .off) :
      BodyMember service query texts "truncate" (.string "NONE")
  | cut (htruncation : service.truncation = some .atEnd) :
      BodyMember service query texts "truncate" (.string "END")

/-- An object that has these members, each of them once, and no others. -/
def Service.IsBody (service : Service) (query : String) (texts : List String) (body : Json) :
    Prop :=
  ∃ members, body = .object members ∧ (members.map Prod.fst).Nodup ∧
    ∀ key member, (key, member) ∈ members ↔ service.BodyMember query texts key member

theorem Service.isBody_toJson (service : Service) (query : String) (texts : List String) :
    service.IsBody query texts (Payload.toJson
      { model := service.model, truncation := service.truncation, query, passages := texts }) := by
  refine ⟨_, rfl, ?_, fun key member => ⟨fun hmember => ?_, fun hmember => ?_⟩⟩
  · cases service.truncation <;> simp
  · simp only [List.mem_append, List.mem_cons, List.not_mem_nil, or_false, Prod.mk.injEq] at hmember
    obtain (⟨rfl, rfl⟩ | ⟨rfl, rfl⟩ | ⟨rfl, rfl⟩) | htruncate := hmember
    · exact .model
    · exact .passages
    · exact .query
    · cases hmode : service.truncation with
      | none => simp [hmode] at htruncate
      | some mode =>
        obtain ⟨rfl, rfl⟩ : key = "truncate" ∧ member = .string mode.name := by
          simpa [hmode] using htruncate
        cases mode with
        | off => exact .refused hmode
        | atEnd => exact .cut hmode
  · cases hmember with
    | model | query | passages => simp
    | refused htruncation | cut htruncation => simp [htruncation, Truncation.name]

/-- A mode is sent exactly if one is chosen. -/
theorem Payload.get?_truncate (payload : Payload) :
    payload.toJson.get? "truncate" = payload.truncation.map fun mode => .string mode.name := by
  obtain ⟨model, truncation, query, passages⟩ := payload
  cases truncation <;> rfl

namespace Batch

/-- The exchange for a batch went through: there was a reply, its status was a success, its body
could be read, and its rankings are of distinct passages of the batch. -/
def Accepted (batch : Batch) (outcome : Except Failure Response) : Prop :=
  ∃ reply rankings, outcome = .ok reply ∧ 200 ≤ reply.status ∧ reply.status < 300 ∧
    parseRankings reply.body = .ok rankings ∧ Fits batch.texts.length rankings

theorem accepted_iff {batch : Batch} {outcome : Except Failure Response} :
    batch.Accepted outcome ↔ ∃ rankings, batch.reading outcome = .ok rankings := by
  simp only [Accepted, reading_eq_ok_iff, decode_eq_ok_iff]
  constructor
  · rintro ⟨reply, rankings, hreply, hlow, hhigh, hparse, hfits⟩
    exact ⟨rankings, ⟨reply, hreply, hlow, hhigh, hparse⟩, hfits⟩
  · rintro ⟨rankings, ⟨reply, hreply, hlow, hhigh, hparse⟩, hfits⟩
    exact ⟨reply, rankings, hreply, hlow, hhigh, hparse, hfits⟩

namespace Answered

variable {size : Nat} {texts : List String} {outcomes : List (Except Failure Response)}
  {result : Except Failure (List (List Ranking))}

theorem length_le_ceilDiv (hanswered : Answered (split size texts) outcomes result)
    (hsize : 0 < size) : outcomes.length ≤ texts.length ⌈/⌉ size := by
  rw [← length_split hsize]
  exact hanswered.length_le

/-- The batches that there is an outcome for. -/
theorem take_split (hanswered : Answered (split size texts) outcomes result) (hsize : 0 < size) :
    (split size texts).take outcomes.length =
      (List.range outcomes.length).map (nth size texts) := by
  rw [split_eq_map_range hsize, ← List.map_take, List.take_range,
    Nat.min_eq_left (hanswered.length_le_ceilDiv hsize)]

theorem getElem?_split_of_outcome (hanswered : Answered (split size texts) outcomes result)
    (hsize : 0 < size) {k : Nat} {outcome : Except Failure Response}
    (houtcome : outcomes[k]? = some outcome) :
    (split size texts)[k]? = some (nth size texts k) := by
  have hk : k < outcomes.length := (List.getElem?_eq_some_iff.1 houtcome).1
  have hbatch := List.getElem?_eq_getElem (Nat.lt_of_lt_of_le hk hanswered.length_le)
  rw [hbatch, ← eq_nth_of_getElem? hsize hbatch]

theorem accepted_of_succ_lt (hanswered : Answered (split size texts) outcomes result)
    (hsize : 0 < size) {k : Nat} {outcome : Except Failure Response}
    (houtcome : outcomes[k]? = some outcome) (hk : k + 1 < outcomes.length) :
    (nth size texts k).Accepted outcome := by
  have hbatch := hanswered.getElem?_split_of_outcome hsize houtcome
  exact accepted_iff.2 (hanswered.reading_of_succ_lt hbatch houtcome hk)

theorem eq_ok_iff_accepted (hanswered : Answered (split size texts) outcomes result)
    (hsize : 0 < size) :
    (∃ replies, result = .ok replies) ↔
      ∀ (k : Nat) outcome, outcomes[k]? = some outcome → (nth size texts k).Accepted outcome := by
  rw [hanswered.eq_ok_iff]
  constructor
  · intro hall k outcome houtcome
    have hbatch := hanswered.getElem?_split_of_outcome hsize houtcome
    exact accepted_iff.2 (hall k _ outcome hbatch houtcome)
  · intro hall k batch outcome hbatch houtcome
    rw [eq_nth_of_getElem? hsize hbatch]
    exact accepted_iff.1 (hall k outcome houtcome)

end Answered

end Batch

namespace Reranker

/-- The requests of a call for texts, and how they go with its result. -/
structure Requested {σ : Type} (client : Reranker) (url : Url) (headers : Headers)
    (query : String) (texts : List String) (run : Run σ (List Item)) : Prop where
  /-- Each request has the texts of one batch, and all else in common with the others. -/
  requests_eq : requestsOf run.trace = (List.range (outcomesOf run.trace).length).map fun k =>
    { url, headers
      payload := some
        { model := client.service.model
          truncation := client.service.truncation
          query
          passages := (texts.drop (k * client.service.maxBatchSize)).take
            client.service.maxBatchSize } }
  method_eq : ∀ request ∈ requestsOf run.trace, request.method = "POST"
  /-- What is sent is the body for the texts of the batch. -/
  body_of_getElem? : ∀ (k : Nat) request, (requestsOf run.trace)[k]? = some request →
    ∃ body, request.payload.map Payload.toJson = some body ∧
      client.service.IsBody query ((texts.drop (k * client.service.maxBatchSize)).take
        client.service.maxBatchSize) body
  truncate_eq : ∀ request ∈ requestsOf run.trace,
    (request.payload.bind fun payload => payload.toJson.get? "truncate") =
      client.service.truncation.map fun mode => .string mode.name
  length_le : (outcomesOf run.trace).length ≤ texts.length ⌈/⌉ client.service.maxBatchSize
  /-- No request follows one whose exchange failed. -/
  accepted_of_succ_lt : ∀ (k : Nat) outcome, (outcomesOf run.trace)[k]? = some outcome →
    k + 1 < (outcomesOf run.trace).length →
      (Batch.nth client.service.maxBatchSize texts k).Accepted outcome
  ok_iff : (∃ items, run.result = .ok items) ↔
    ∀ (k : Nat) outcome, (outcomesOf run.trace)[k]? = some outcome →
      (Batch.nth client.service.maxBatchSize texts k).Accepted outcome
  /-- A call fails as the exchange of its last request did. -/
  error_eq : ∀ failure, run.result = .error failure →
    ∃ k outcome, k + 1 = (outcomesOf run.trace).length ∧
      (outcomesOf run.trace)[k]? = some outcome ∧
      (Batch.nth client.service.maxBatchSize texts k).reading outcome = .error failure
  length_of_ok : ∀ items, run.result = .ok items →
    (requestsOf run.trace).length = texts.length ⌈/⌉ client.service.maxBatchSize
  passages_eq : (requestsOf run.trace).flatMap Request.passages =
    texts.take ((requestsOf run.trace).length * client.service.maxBatchSize)
  passages_of_ok : ∀ items, run.result = .ok items →
    (requestsOf run.trace).flatMap Request.passages = texts

variable {client : Reranker} {url : Url} {headers : Headers} {query : String}
  {texts : List String}

/-- What the requests for the first batches have in common. -/
theorem method_and_truncate_of_mem {count : Nat} {request : Request}
    (hrequest : request ∈ ((List.range count).map
      (Batch.nth client.service.maxBatchSize texts)).map (client.post url headers query)) :
    request.method = "POST" ∧
      (request.payload.bind fun payload => payload.toJson.get? "truncate") =
        client.service.truncation.map fun mode => .string mode.name := by
  obtain ⟨batch, -, rfl⟩ := List.mem_map.1 hrequest
  exact ⟨rfl, Payload.get?_truncate _⟩

/-- A run that asks about batches as they are answered has its requests exact. -/
theorem requested_of_answered {σ : Type} {run : Run σ (List Item)}
    {result : Except Failure (List (List Ranking))} {combine : List (List Ranking) → List Item}
    (hsize : 0 < client.service.maxBatchSize)
    (hanswered : Batch.Answered (Batch.split client.service.maxBatchSize texts)
      (outcomesOf run.trace) result)
    (hresult : run.result = result.map combine)
    (hrequests : requestsOf run.trace =
      ((Batch.split client.service.maxBatchSize texts).take (outcomesOf run.trace).length).map
        (client.post url headers query)) :
    Requested client url headers query texts run := by
  rw [hanswered.take_split hsize] at hrequests
  have hcount : (requestsOf run.trace).length = (outcomesOf run.trace).length := by
    simp [hrequests]
  have hpassages : (requestsOf run.trace).flatMap Request.passages =
      texts.take ((requestsOf run.trace).length * client.service.maxBatchSize) := by
    rw [hcount, hrequests, List.map_map, List.flatMap_map, ← Batch.flatMap_range_texts_nth]
    rfl
  have hok : (∃ items, run.result = .ok items) ↔ ∃ replies, result = .ok replies := by
    rw [hresult]
    cases result <;> simp [Except.map]
  have hlength (items : List Item) (hitems : run.result = .ok items) :
      (requestsOf run.trace).length = texts.length ⌈/⌉ client.service.maxBatchSize := by
    obtain ⟨replies, rfl⟩ := hok.1 ⟨items, hitems⟩
    rw [hcount, hanswered.length_eq, Batch.length_split hsize]
  constructor
  case requests_eq =>
    rw [hrequests, List.map_map]
    rfl
  case method_eq =>
    intro request hrequest
    exact (method_and_truncate_of_mem (hrequests ▸ hrequest)).1
  case body_of_getElem? =>
    intro k request hrequest
    rw [hrequests, List.map_map, List.getElem?_map, Option.map_eq_some_iff] at hrequest
    obtain ⟨j, hj, rfl⟩ := hrequest
    obtain ⟨-, rfl⟩ := List.getElem?_eq_some_iff.1 hj
    rw [List.getElem_range]
    exact ⟨_, rfl, Service.isBody_toJson _ _ _⟩
  case truncate_eq =>
    intro request hrequest
    exact (method_and_truncate_of_mem (hrequests ▸ hrequest)).2
  case length_le => exact hanswered.length_le_ceilDiv hsize
  case accepted_of_succ_lt =>
    intro k outcome houtcome hk
    exact hanswered.accepted_of_succ_lt hsize houtcome hk
  case ok_iff => rw [hok, hanswered.eq_ok_iff_accepted hsize]
  case error_eq =>
    intro failure hfailure
    rw [hresult] at hfailure
    cases result with
    | ok replies => contradiction
    | error cause =>
      cases hfailure
      obtain ⟨k, batch, outcome, hlast, hbatch, houtcome, hreading⟩ :=
        hanswered.exists_last_of_error
      rw [Batch.eq_nth_of_getElem? hsize hbatch] at hreading
      exact ⟨k, outcome, hlast, houtcome, hreading⟩
  case length_of_ok => exact hlength
  case passages_eq => exact hpassages
  case passages_of_ok =>
    intro items hitems
    rw [hpassages, hlength items hitems, Batch.take_ceilDiv_mul hsize]

/-- Requests are exact: a call with a query and texts, which can make the url and the headers, sends
batch after batch of the texts, in order, until an exchange fails or all batches are scored, and
succeeds exactly if none fails. -/
theorem requests_of_rank [Url.Idna] {σ : Type} (channel : Channel σ) (hclient : client.Connected)
    (hquery : Text.isBlank query = false) (htexts : texts ≠ [])
    (hurl : client.service.rankingUrl = .ok url)
    (hheaders : Headers.forKey client.service.apiKey = .ok headers) (topN : Nat) (state : σ) :
    Requested client url headers query texts
      ((rank channel client query texts topN).run state) := by
  have haddressing := (addressing_eq_ok_iff client).2 ⟨hurl, hheaders⟩
  obtain ⟨result, hanswered, hresult, hrequests⟩ :=
    answered_of_rank channel client topN state hquery htexts haddressing
  exact requested_of_answered hclient.maxBatchSize_pos hanswered hresult hrequests

/-- Three passages in two batches, each of which has a request of its own. -/
theorem requests_of_rank_hostedInPairs :
    let run := (rank Channel.scripted hostedInPairs "q" ["a", "b", "c"] 2).run pairReplies
    hostedInPairs.Connected ∧ run.result = .ok [⟨2, ⟨0x40400000⟩⟩, ⟨1, ⟨0x40000000⟩⟩] ∧
      (requestsOf run.trace).length = 2 ∧
      Requested hostedInPairs hostedInPairs.service.baseUrl ⟨some "Bearer key"⟩ "q"
        ["a", "b", "c"] run := by
  intro run
  have hrequested : Requested hostedInPairs hostedInPairs.service.baseUrl ⟨some "Bearer key"⟩ "q"
      ["a", "b", "c"] run :=
    requests_of_rank Channel.scripted connected_hostedInPairs (by decide +kernel) (by simp)
      (by decide +kernel) (by decide +kernel) 2 pairReplies
  have hlength := hrequested.length_of_ok _ result_rank_hostedInPairs
  exact ⟨connected_hostedInPairs, result_rank_hostedInPairs, hlength, hrequested⟩

end Reranker

end Rerank
