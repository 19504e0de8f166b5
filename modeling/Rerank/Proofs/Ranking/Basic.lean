import Rerank.Proofs.Discovery.Basic
import Rerank.Proofs.Scoring
import Rerank.Url.KnownNames

/-!
# What a ranking call does

A call is announced and then refused for a blank query, answered at once without texts, refused if
the url or the headers cannot be made, or decided by what came of the requests for its batches.  The
items of a call that succeeds are told from the rankings in the replies that it got.
-/

namespace Rerank

section Connecting

variable [Url.Idna]

/-- Clients of the services that connecting finds; the sink may have been replaced since. -/
def Reranker.Connected (client : Reranker) : Prop :=
  ∃ (σ : Type) (channel : Channel σ) (settings : Settings) (state : σ) (connected : Reranker),
    ((Reranker.connect channel settings).run state).result = .ok connected ∧
      client.service = connected.service

/-- A service that was found takes batches of at least one passage. -/
theorem Service.maxBatchSize_pos_of_discover {σ : Type} {channel : Channel σ} {settings : Settings}
    {state : σ} {service : Service}
    (hfound : ((discover channel settings).run state).result = .ok service) :
    0 < service.maxBatchSize := by
  obtain ⟨hsize, choice, -, rfl⟩ := discover_eq_ok hfound
  exact Nat.pos_of_ne_zero hsize

/-- To connect is to find a service. -/
theorem Reranker.run_connect {σ : Type} (channel : Channel σ) (settings : Settings) (state : σ) :
    (connect channel settings).run state =
      ((Service.discover channel settings).run state).map
        fun service => { service, sink := .logging } :=
  Action.run_bind_pure _ _ _

/-- The service of a client is one that was found. -/
theorem Reranker.discover_of_connect {σ : Type} {channel : Channel σ} {settings : Settings}
    {state : σ} {client : Reranker}
    (hclient : ((connect channel settings).run state).result = .ok client) :
    ((Service.discover channel settings).run state).result = .ok client.service := by
  rw [run_connect] at hclient
  obtain ⟨service, hfound, rfl⟩ := except_map_eq_ok_iff.1 hclient
  exact hfound

theorem Reranker.Connected.maxBatchSize_pos {client : Reranker} (hclient : client.Connected) :
    0 < client.service.maxBatchSize := by
  obtain ⟨σ, channel, settings, state, connected, hconnect, hservice⟩ := hclient
  rw [hservice]
  exact Service.maxBatchSize_pos_of_discover (discover_of_connect hconnect)

end Connecting

/-- A client of the hosted service that sends its passages in pairs. -/
def Reranker.hostedInPairs : Reranker where
  service := {
    model := Catalog.defaultModel
    baseUrl := {
      scheme := "https"
      authority := some
        { username := "", password := none, host := .name "ai.api.nvidia.com", port := none }
      path := .rooted ["v1", "retrieval", "nvidia", "nv-rerankqa-mistral-4b-v3", "reranking"]
      query := none
      fragment := none }
    deployment := .hosted "key"
    truncation := none
    topN := 2
    maxBatchSize := 2 }
  sink := .logging

theorem Reranker.connected_hostedInPairs : hostedInPairs.Connected := by
  have hfound : ((Service.discover Channel.scripted
      { apiKey := some "key", topN := 2, maxBatchSize := 2 }).run []).result =
        .ok hostedInPairs.service := by
    decide +kernel
  exact ⟨_, _, _, _, hostedInPairs, Action.result_bind_eq_ok.2 ⟨_, hfound, rfl⟩, rfl⟩

/-- A reply with a success status and the given text. -/
def jsonReply (text : String) : Response where
  status := 200
  body := text.toUTF8.toList

/-- Replies to two pairs of passages, the second of which is the best of all. -/
def pairReplies : List Response :=
  [ jsonReply "\x7b\"rankings\": [[1, 2], [0, 1]]\x7d",
    jsonReply "\x7b\"rankings\": [[0, 3]]\x7d" ]

namespace Reranker

variable {σ : Type} (channel : Channel σ) (client : Reranker) {query : String}
  {texts : List String} (topN : Nat) (state : σ)

/-- What is seen first of a call. -/
def opening (client : Reranker) (query : String) (texts : List String) (topN : Nat) :
    List Observation :=
  client.sink.deliver (.started query texts topN client.service.model)

/-- What is seen last of a call, if it succeeds. -/
def closing (client : Reranker) : Except Failure (List Item) → List Observation
  | .ok results => client.sink.deliver (.ended client.service.model results)
  | .error _ => []

@[simp]
theorem requestsOf_opening : requestsOf (client.opening query texts topN) = [] :=
  requestsOf_deliver _ _

@[simp]
theorem outcomesOf_opening : outcomesOf (client.opening query texts topN) = [] :=
  outcomesOf_deliver _ _

@[simp]
theorem requestsOf_closing (result : Except Failure (List Item)) :
    requestsOf (client.closing result) = [] := by
  cases result with
  | error failure => rfl
  | ok results => exact requestsOf_deliver _ _

@[simp]
theorem outcomesOf_closing (result : Except Failure (List Item)) :
    outcomesOf (client.closing result) = [] := by
  cases result with
  | error failure => rfl
  | ok results => exact outcomesOf_deliver _ _

variable [Url.Idna]

/-- The url and the headers that all requests of a call share. -/
def addressing (client : Reranker) : Except Failure (Url × Headers) := do
  let url ← client.service.rankingUrl
  let headers ← Headers.forKey client.service.apiKey
  return (url, headers)

theorem run_rank_of_blank (hquery : Text.isBlank query = true) :
    (rank channel client query texts topN).run state =
      ⟨.error .emptyQuery, state, client.opening query texts topN⟩ := by
  rw [rank, Action.run_announce_bind, hquery]
  simp [Run.after, opening]

theorem run_rank_nil (hquery : Text.isBlank query = false) :
    (rank channel client query [] topN).run state =
      ⟨.ok [], state, client.opening query [] topN⟩ := by
  rw [rank, Action.run_announce_bind, hquery]
  simp [Run.after, opening]

theorem addressing_eq_ok_iff {url : Url} {headers : Headers} :
    client.addressing = .ok (url, headers) ↔
      client.service.rankingUrl = .ok url ∧ Headers.forKey client.service.apiKey = .ok headers := by
  rw [addressing]
  cases client.service.rankingUrl <;> cases Headers.forKey client.service.apiKey <;>
    simp [bind, Except.bind, pure, Except.pure]

/-- Without an url or without headers nothing is sent. -/
theorem run_rank_of_unaddressed (hquery : Text.isBlank query = false) (htexts : texts ≠ [])
    {failure : Failure} (haddressing : client.addressing = .error failure) :
    (rank channel client query texts topN).run state =
      ⟨.error failure, state, client.opening query texts topN⟩ := by
  have hempty : texts.isEmpty = false := by simpa using htexts
  rw [addressing] at haddressing
  rw [rank, Action.run_announce_bind, hquery, hempty]
  cases hurl : client.service.rankingUrl with
  | error cause =>
    rw [hurl] at haddressing
    cases haddressing
    simp [Run.after, opening]
  | ok url =>
    cases hheaders : Headers.forKey client.service.apiKey with
    | error cause =>
      rw [hurl, hheaders] at haddressing
      cases haddressing
      simp [Run.after, opening]
    | ok headers =>
      rw [hurl, hheaders] at haddressing
      contradiction

/-- A call is over before anything is sent, or it can ask about its batches. -/
theorem rank_unsent_or_addressed (query : String) (texts : List String) :
    (∃ result, (rank channel client query texts topN).run state =
        ⟨result, state, client.opening query texts topN⟩ ∧
      (Text.isBlank query = true → result = .error .emptyQuery) ∧
      (Text.isBlank query = false → texts = [] → result = .ok [])) ∨
    (Text.isBlank query = false ∧ texts ≠ [] ∧
      ∃ url headers, client.addressing = .ok (url, headers)) := by
  cases hquery : Text.isBlank query with
  | true =>
    refine .inl ⟨_, run_rank_of_blank channel client topN state hquery, fun _ => rfl, ?_⟩
    exact fun hnot => absurd hnot.symm Bool.false_ne_true
  | false =>
    by_cases htexts : texts = []
    · subst htexts
      exact .inl ⟨_, run_rank_nil channel client topN state hquery,
        fun hblank => absurd hblank Bool.false_ne_true, fun _ _ => rfl⟩
    cases haddressing : client.addressing with
    | error failure =>
      exact .inl ⟨_, run_rank_of_unaddressed channel client topN state hquery htexts haddressing,
        fun hblank => absurd hblank Bool.false_ne_true, fun _ hnil => absurd hnil htexts⟩
    | ok addressing =>
      obtain ⟨url, headers⟩ := addressing
      exact .inr ⟨rfl, htexts, url, headers, rfl⟩

/-- A call with a query and texts is decided by the scoring of its batches. -/
theorem run_rank_of_addressed (hquery : Text.isBlank query = false) (htexts : texts ≠ [])
    {url : Url} {headers : Headers} (haddressing : client.addressing = .ok (url, headers)) :
    (rank channel client query texts topN).run state =
      let scored := (scoreBatches channel client url headers query topN
        (Batch.split client.service.maxBatchSize texts)).run state
      let result := scored.result.map (merge texts.length client.service.maxBatchSize topN)
      { result
        state := scored.state
        trace := client.opening query texts topN ++ scored.trace ++ client.closing result } := by
  have hempty : texts.isEmpty = false := by simpa using htexts
  obtain ⟨hurl, hheaders⟩ := (addressing_eq_ok_iff client).1 haddressing
  rw [rank, Action.run_announce_bind, hquery, hempty, hurl, hheaders]
  simp only [Bool.false_eq_true, if_false]
  rw [Action.run_ofExcept_ok_bind, Action.run_ofExcept_ok_bind, Action.run_bind]
  generalize (scoreBatches channel client url headers query topN
    (Batch.split client.service.maxBatchSize texts)).run state = scored
  obtain ⟨result, next, trace⟩ := scored
  cases result with
  | error failure => simp [Run.after, opening, closing, Except.map]
  | ok items => simp [Run.after, opening, closing, Except.map]

/-- A call announces that it starts, does what does not depend on its limit, and announces its items
if it succeeds and there was something to rank. -/
theorem exists_run_rank (query : String) (texts : List String) :
    ∃ (read : Except Failure (List (List Ranking))) (next : σ) (scoring : List Observation),
      eventsOf scoring = [] ∧ ∀ topN,
        let result := read.map fun replies =>
          merge texts.length client.service.maxBatchSize topN
            (Batch.collect (Batch.split client.service.maxBatchSize texts)
              (replies.map (List.take topN)))
        (rank channel client query texts topN).run state =
          { result
            state := next
            trace := client.opening query texts topN ++ scoring ++
              if texts = [] then [] else client.closing result } := by
  cases hquery : Text.isBlank query with
  | true =>
    refine ⟨.error .emptyQuery, state, [], rfl, fun topN => ?_⟩
    rw [run_rank_of_blank channel client topN state hquery]
    simp [Except.map, closing]
  | false =>
    by_cases htexts : texts = []
    · subst htexts
      refine ⟨.ok [], state, [], rfl, fun topN => ?_⟩
      rw [run_rank_nil channel client topN state hquery]
      simp [Except.map, merge, Batch.split]
    cases haddressing : client.addressing with
    | error failure =>
      refine ⟨.error failure, state, [], rfl, fun topN => ?_⟩
      rw [run_rank_of_unaddressed channel client topN state hquery htexts haddressing]
      simp [Except.map, closing]
    | ok addressing =>
      obtain ⟨url, headers⟩ := addressing
      obtain ⟨read, next, scoring, hscored⟩ := exists_run_scoreBatches channel client url headers
        query (Batch.split client.service.maxBatchSize texts) state
      refine ⟨read, next, scoring, ?_, fun topN => ?_⟩
      · have hevents := eventsOf_scoreBatches channel client url headers query 0
          (Batch.split client.service.maxBatchSize texts) state
        rwa [hscored] at hevents
      · rw [run_rank_of_addressed channel client topN state hquery htexts haddressing]
        simp only [hscored, if_neg htexts]
        cases read <;> rfl

/-- The batches of a call with a query and texts are answered by the outcomes of its requests, and
its result is made of what was read from them. -/
theorem answered_of_rank (hquery : Text.isBlank query = false) (htexts : texts ≠ [])
    {url : Url} {headers : Headers} (haddressing : client.addressing = .ok (url, headers)) :
    let run := (rank channel client query texts topN).run state
    let batches := Batch.split client.service.maxBatchSize texts
    ∃ result, Batch.Answered batches (outcomesOf run.trace) result ∧
      run.result = result.map (fun replies =>
        merge texts.length client.service.maxBatchSize topN
          (Batch.collect batches (replies.map (List.take topN)))) ∧
      requestsOf run.trace =
        (batches.take (outcomesOf run.trace).length).map (client.post url headers query) := by
  obtain ⟨result, hanswered, hresult, hrequests⟩ := scoreBatches_answered channel client url
    headers query topN (Batch.split client.service.maxBatchSize texts) state
  rw [run_rank_of_addressed channel client topN state hquery htexts haddressing]
  dsimp only
  generalize (scoreBatches channel client url headers query topN
    (Batch.split client.service.maxBatchSize texts)).run state = scored at *
  refine ⟨result, by simpa using hanswered, ?_, by simpa using hrequests⟩
  rw [hresult]
  cases result <;> rfl

end Reranker

/-- Outcomes that can all be decoded are replies, and their rankings are those decoded. -/
theorem rankingsOf_eq_of_map_decode {trace : List Observation} {replies : List (List Ranking)}
    (hdecode : (outcomesOf trace).map decode = replies.map .ok) :
    (repliesOf trace).map (fun reply => parseRankings reply.body) = replies.map .ok ∧
      rankingsOf trace = replies := by
  have hparsed : (repliesOf trace).map (fun reply => parseRankings reply.body) =
      replies.map .ok := by
    rw [repliesOf_eq_filterMap]
    generalize outcomesOf trace = outcomes at hdecode
    induction outcomes generalizing replies with
    | nil => simpa using hdecode
    | cons outcome outcomes ih =>
      cases replies with
      | nil => contradiction
      | cons rankings replies =>
        obtain ⟨hfirst, hrest⟩ := List.cons.inj hdecode
        obtain ⟨reply, rfl, -, -, hparse⟩ := decode_eq_ok_iff.1 hfirst
        change parseRankings reply.body :: (outcomes.filterMap Except.toOption).map _ = _
        rw [hparse, ih hrest, List.map_cons]
  refine ⟨hparsed, ?_⟩
  have hgiven := congrArg (List.map fun read => (Except.toOption read).getD []) hparsed
  simpa [rankingsOf, Function.comp_def, Except.toOption] using hgiven

namespace Reranker

/-- How the items of a call that succeeds come from the replies that it got. -/
structure Ranked (client : Reranker) (query : String) (texts : List String) (topN : Nat)
    (trace : List Observation) (items : List Item) : Prop where
  /-- Each batch had its request. -/
  asked : (requestsOf trace).map Request.payload =
    (Batch.split client.service.maxBatchSize texts).map fun batch =>
      some (client.payload query batch)
  /-- Each reply was one to a request and could be read. -/
  parsed : (repliesOf trace).map (fun reply => parseRankings reply.body) =
    (rankingsOf trace).map .ok
  /-- The rankings of each reply fit its batch. -/
  fitting : Batch.Fitting (Batch.split client.service.maxBatchSize texts) (rankingsOf trace)
  items_eq : items = merge texts.length client.service.maxBatchSize topN
    (Batch.collect (Batch.split client.service.maxBatchSize texts)
      ((rankingsOf trace).map (List.take topN)))

/-- What is known of every call that succeeds. -/
theorem ranked_of_rank [Url.Idna] {σ : Type} {channel : Channel σ} {client : Reranker}
    {query : String} {texts : List String} {topN : Nat} {state : σ} {items : List Item}
    (hrank : ((rank channel client query texts topN).run state).result = .ok items) :
    Ranked client query texts topN ((rank channel client query texts topN).run state).trace
      items := by
  cases hquery : Text.isBlank query with
  | true =>
    rw [run_rank_of_blank channel client topN state hquery] at hrank
    contradiction
  | false =>
    by_cases htexts : texts = []
    · subst htexts
      rw [run_rank_nil channel client topN state hquery] at hrank ⊢
      cases hrank
      have hsplit : Batch.split client.service.maxBatchSize [] = [] := by simp [Batch.split]
      have hrankings : rankingsOf (client.opening query [] topN) = [] := by
        rw [rankingsOf, repliesOf_eq_filterMap, outcomesOf_opening]
        rfl
      have hreplies : repliesOf (client.opening query [] topN) = [] := by
        rw [repliesOf_eq_filterMap, outcomesOf_opening]
        rfl
      constructor
      · simp [hsplit]
      · rw [hreplies, hrankings]
        rfl
      · rw [hsplit, hrankings]
        exact .nil
      · simp [merge, hsplit, hrankings]
    · cases haddressing : client.addressing with
      | error failure =>
        rw [run_rank_of_unaddressed channel client topN state hquery htexts haddressing] at hrank
        contradiction
      | ok addressing =>
        obtain ⟨url, headers⟩ := addressing
        obtain ⟨result, hanswered, hresult, hrequests⟩ :=
          answered_of_rank channel client topN state hquery htexts haddressing
        generalize (rank channel client query texts topN).run state = run at *
        rw [hrank] at hresult
        cases result with
        | error failure => contradiction
        | ok replies =>
          obtain ⟨hparsed, hrankings⟩ := rankingsOf_eq_of_map_decode hanswered.map_decode
          constructor
          · simp [hrequests, hanswered.length_eq, Function.comp_def, post]
          · rw [hparsed, hrankings]
          · rw [hrankings]
            exact hanswered.fitting
          · rw [hrankings]
            exact Except.ok.inj hresult

/-- A call succeeds if its batches are scored. -/
theorem result_rank_of_scored [Url.Idna] {σ : Type} {channel : Channel σ} {client : Reranker}
    {query : String} {texts : List String} {topN : Nat} {state : σ} {url : Url} {headers : Headers}
    {items : List Item} (hquery : Text.isBlank query = false) (htexts : texts ≠ [])
    (haddressing : client.addressing = .ok (url, headers))
    (hscored : ((scoreBatches channel client url headers query topN
      (Batch.split client.service.maxBatchSize texts)).run state).result = .ok items) :
    ((rank channel client query texts topN).run state).result =
      .ok (merge texts.length client.service.maxBatchSize topN items) := by
  rw [run_rank_of_addressed channel client topN state hquery htexts haddressing]
  dsimp only
  rw [hscored]
  rfl

theorem addressing_hostedInPairs :
    hostedInPairs.addressing = .ok (hostedInPairs.service.baseUrl, ⟨some "Bearer key"⟩) := by
  decide +kernel

theorem result_rank_hostedInPairs :
    ((rank Channel.scripted hostedInPairs "q" ["a", "b", "c"] 2).run pairReplies).result =
      .ok [⟨2, ⟨0x40400000⟩⟩, ⟨1, ⟨0x40000000⟩⟩] := by
  have hscored : ((scoreBatches Channel.scripted hostedInPairs hostedInPairs.service.baseUrl
      ⟨some "Bearer key"⟩ "q" 2 (Batch.split 2 ["a", "b", "c"])).run pairReplies).result =
        .ok [⟨1, ⟨0x40000000⟩⟩, ⟨0, ⟨0x3f800000⟩⟩, ⟨2, ⟨0x40400000⟩⟩] := by
    decide +kernel
  have hmerge : merge 3 2 2 [⟨1, ⟨0x40000000⟩⟩, ⟨0, ⟨0x3f800000⟩⟩, ⟨2, ⟨0x40400000⟩⟩] =
      [⟨2, ⟨0x40400000⟩⟩, ⟨1, ⟨0x40000000⟩⟩] := by
    cbv
  have hresult :=
    result_rank_of_scored (by decide +kernel) (by simp) addressing_hostedInPairs hscored
  rwa [← hmerge]

end Reranker

end Rerank
