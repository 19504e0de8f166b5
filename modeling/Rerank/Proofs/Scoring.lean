import Rerank.Proofs.Batch.Collected
import Rerank.Proofs.Run
import Rerank.Reranker

/-!
# Scoring batches one after another

Each batch is one request.  What came of the requests decides the rest: the batches are asked about
in turn, each one's rankings are read, and the first batch whose rankings cannot be read is the last
one that is asked about.
-/

namespace Rerank

namespace Batch

/-- What came of the requests of batches, and what was read from it. -/
inductive Answered :
    List Batch → List (Except Failure Response) → Except Failure (List (List Ranking)) → Prop where
  | done : Answered [] [] (.ok [])
  | refused {batch rest outcome failure} (hreading : batch.reading outcome = .error failure) :
      Answered (batch :: rest) [outcome] (.error failure)
  | stopped {batch rest outcome outcomes rankings failure}
      (hreading : batch.reading outcome = .ok rankings)
      (hrest : Answered rest outcomes (.error failure)) :
      Answered (batch :: rest) (outcome :: outcomes) (.error failure)
  | read {batch rest outcome outcomes rankings more} (hreading : batch.reading outcome = .ok rankings)
      (hrest : Answered rest outcomes (.ok more)) :
      Answered (batch :: rest) (outcome :: outcomes) (.ok (rankings :: more))

namespace Answered

variable {batches : List Batch} {outcomes : List (Except Failure Response)}
  {result : Except Failure (List (List Ranking))} {replies : List (List Ranking)}

theorem length_le (hanswered : Answered batches outcomes result) :
    outcomes.length ≤ batches.length := by
  induction hanswered with
  | done => exact le_rfl
  | refused _ => simp
  | stopped _ _ ih => exact Nat.succ_le_succ ih
  | read _ _ ih => exact Nat.succ_le_succ ih

/-- Each outcome is decoded if nothing failed. -/
theorem map_decode (hanswered : Answered batches outcomes (.ok replies)) :
    outcomes.map decode = replies.map .ok := by
  induction batches generalizing outcomes replies with
  | nil =>
    cases hanswered
    rfl
  | cons batch rest ih =>
    cases hanswered with
    | read hreading hrest =>
      rw [List.map_cons, List.map_cons, (reading_eq_ok_iff.1 hreading).1, ih hrest]

theorem fitting (hanswered : Answered batches outcomes (.ok replies)) :
    Fitting batches replies := by
  induction batches generalizing outcomes replies with
  | nil =>
    cases hanswered
    exact .nil
  | cons batch rest ih =>
    cases hanswered with
    | read hreading hrest => exact .cons (reading_eq_ok_iff.1 hreading).2 (ih hrest)

/-- Each batch was asked about if nothing failed. -/
theorem length_eq (hanswered : Answered batches outcomes (.ok replies)) :
    outcomes.length = batches.length := by
  have hdecoded := congrArg List.length hanswered.map_decode
  rw [List.length_map, List.length_map] at hdecoded
  rw [hdecoded, hanswered.fitting.length_eq]

/-- All batches that were asked about could be read, but for the last one. -/
theorem reading_of_succ_lt (hanswered : Answered batches outcomes result) {k : Nat}
    {batch : Batch} {outcome : Except Failure Response} (hbatch : batches[k]? = some batch)
    (houtcome : outcomes[k]? = some outcome) (hk : k + 1 < outcomes.length) :
    ∃ rankings, batch.reading outcome = .ok rankings := by
  induction hanswered generalizing k with
  | done => contradiction
  | refused _ => simp at hk
  | stopped hreading _ ih | read hreading _ ih =>
    cases k with
    | zero =>
      cases hbatch
      cases houtcome
      exact ⟨_, hreading⟩
    | succ k => exact ih hbatch houtcome (Nat.lt_of_succ_lt_succ hk)

/-- What failed is what came of the last request. -/
theorem exists_last_of_error {failure : Failure}
    (hanswered : Answered batches outcomes (.error failure)) :
    ∃ k batch outcome, k + 1 = outcomes.length ∧ batches[k]? = some batch ∧
      outcomes[k]? = some outcome ∧ batch.reading outcome = .error failure := by
  induction batches generalizing outcomes with
  | nil => cases hanswered
  | cons batch rest ih =>
    cases hanswered with
    | refused hreading => exact ⟨0, batch, _, rfl, rfl, rfl, hreading⟩
    | stopped _ hrest =>
      obtain ⟨k, last, outcome, hlast, hbatch, houtcome, hreading⟩ := ih hrest
      exact ⟨k + 1, last, outcome, congrArg Nat.succ hlast, hbatch, houtcome, hreading⟩

/-- Nothing failed exactly if all batches that were asked about could be read. -/
theorem eq_ok_iff (hanswered : Answered batches outcomes result) :
    (∃ replies, result = .ok replies) ↔
      ∀ (k : Nat) batch outcome, batches[k]? = some batch → outcomes[k]? = some outcome →
        ∃ rankings, batch.reading outcome = .ok rankings := by
  induction hanswered with
  | done => simp
  | refused hreading =>
    constructor
    · rintro ⟨_, hok⟩
      contradiction
    · intro hall
      obtain ⟨rankings, hread⟩ := hall 0 _ _ rfl rfl
      rw [hreading] at hread
      contradiction
  | stopped _ _ ih =>
    constructor
    · rintro ⟨_, hok⟩
      contradiction
    · intro hall
      obtain ⟨_, hok⟩ := ih.2 fun k => hall (k + 1)
      contradiction
  | read hreading _ ih =>
    refine ⟨fun _ => ?_, fun _ => ⟨_, rfl⟩⟩
    intro k batch outcome hbatch houtcome
    cases k with
    | zero =>
      cases hbatch
      cases houtcome
      exact ⟨_, hreading⟩
    | succ k => exact ih.1 ⟨_, rfl⟩ k batch outcome hbatch houtcome

end Answered

end Batch

namespace Reranker

variable {σ : Type} (channel : Channel σ) (client : Reranker) (url : Url) (headers : Headers)
  (query : String) (topN : Nat)

/-- The request to score a batch. -/
def post (client : Reranker) (url : Url) (headers : Headers) (query : String) (batch : Batch) :
    Request where
  url := url
  headers := headers
  payload := some (client.payload query batch)

/-- What is seen of the request of a batch. -/
def seen (client : Reranker) (url : Url) (headers : Headers) (query : String) (batch : Batch)
    (outcome : Except Failure Response) : List Observation :=
  .request (client.post url headers query batch) :: Channel.observed outcome ::
    (batch.records outcome).map .log

@[simp]
theorem requestsOf_seen (batch : Batch) (outcome : Except Failure Response) :
    requestsOf (client.seen url headers query batch outcome) =
      [client.post url headers query batch] := by
  cases outcome <;> simp [seen, requestsOf, Channel.observed]

@[simp]
theorem outcomesOf_seen (batch : Batch) (outcome : Except Failure Response) :
    outcomesOf (client.seen url headers query batch outcome) = [outcome] := by
  cases outcome <;> simp [seen, outcomesOf, Channel.observed]

@[simp]
theorem eventsOf_seen (batch : Batch) (outcome : Except Failure Response) :
    eventsOf (client.seen url headers query batch outcome) = [] := by
  cases outcome <;> simp [seen, eventsOf, Channel.observed]

/-- One batch is one request, and its rankings are read from what came of that. -/
theorem run_scoreBatch (batch : Batch) (state : σ) :
    (scoreBatch channel client url headers query topN batch).run state =
      { result := (batch.reading (channel.exchange (client.post url headers query batch) state).1).map
          fun rankings => (rankings.take topN).map batch.item
        state := (channel.exchange (client.post url headers query batch) state).2
        trace := client.seen url headers query batch
          (channel.exchange (client.post url headers query batch) state).1 } := by
  change (channel.send (client.post url headers query batch) >>= _ : Action σ (List Item)).run
    state = _
  rw [Action.run_send_bind]
  generalize channel.exchange (client.post url headers query batch) state = exchanged
  obtain ⟨outcome, next⟩ := exchanged
  cases outcome with
  | error failure => rfl
  | ok reply =>
    dsimp only
    cases hstatus : reply.successful with
    | error failure =>
      have hdecode : decode (.ok reply) = .error failure := by
        simp [decode, bind, Except.bind, hstatus]
      simp only [seen, Batch.reading, Batch.records, hdecode]
      rfl
    | ok success =>
      have hdecode : decode (.ok reply) = parseRankings success.body := by
        simp [decode, bind, Except.bind, hstatus]
      rw [Action.run_ofExcept_ok_bind]
      cases hrankings : parseRankings success.body with
      | error failure =>
        simp only [seen, Batch.reading, Batch.records, hdecode, hrankings]
        rfl
      | ok rankings =>
        have hreading : batch.reading (.ok reply) = batch.checked rankings := by
          simp [Batch.reading, hdecode, hrankings, bind, Except.bind]
        simp only [Action.run_ofExcept_ok_bind, Action.run_log_bind, seen, Batch.records, hdecode,
          hrankings, hreading]
        cases batch.checked rankings <;> rfl

/-- The batches after one are scored only if its rankings could be read. -/
theorem run_scoreBatches_cons (batch : Batch) (rest : List Batch) (state : σ) :
    (scoreBatches channel client url headers query topN (batch :: rest)).run state =
      match batch.reading (channel.exchange (client.post url headers query batch) state).1 with
      | .ok rankings =>
        let more := (scoreBatches channel client url headers query topN rest).run
          (channel.exchange (client.post url headers query batch) state).2
        { result := more.result.map ((rankings.take topN).map batch.item ++ ·)
          state := more.state
          trace := client.seen url headers query batch
            (channel.exchange (client.post url headers query batch) state).1 ++ more.trace }
      | .error failure =>
        { result := .error failure
          state := (channel.exchange (client.post url headers query batch) state).2
          trace := client.seen url headers query batch
            (channel.exchange (client.post url headers query batch) state).1 } := by
  rw [scoreBatches, Action.run_bind, run_scoreBatch]
  generalize channel.exchange (client.post url headers query batch) state = exchanged
  obtain ⟨outcome, next⟩ := exchanged
  cases batch.reading outcome with
  | error failure => rfl
  | ok rankings =>
    simp only [Except.map, Action.run_bind]
    cases hmore : ((scoreBatches channel client url headers query topN rest).run next).result <;>
      simp [Run.after]

/-- How many items of each batch are kept changes nothing but the items. -/
theorem exists_run_scoreBatches (batches : List Batch) (state : σ) :
    ∃ (read : Except Failure (List (List Ranking))) (next : σ) (trace : List Observation),
      ∀ topN, (scoreBatches channel client url headers query topN batches).run state =
        { result := read.map fun replies => Batch.collect batches (replies.map (List.take topN))
          state := next
          trace } := by
  induction batches generalizing state with
  | nil => exact ⟨.ok [], state, [], fun _ => rfl⟩
  | cons batch rest ih =>
    simp only [run_scoreBatches_cons]
    generalize channel.exchange (client.post url headers query batch) state = exchanged
    obtain ⟨outcome, next⟩ := exchanged
    cases batch.reading outcome with
    | error failure => exact ⟨.error failure, _, _, fun _ => rfl⟩
    | ok rankings =>
      obtain ⟨read, left, trace, hrest⟩ := ih next
      refine ⟨read.map (rankings :: ·), left,
        client.seen url headers query batch outcome ++ trace, fun topN => ?_⟩
      simp only [hrest]
      cases read <;> simp [Except.map]

/-- Nothing is announced while batches are scored. -/
theorem eventsOf_scoreBatches (batches : List Batch) (state : σ) :
    eventsOf ((scoreBatches channel client url headers query topN batches).run state).trace =
      [] := by
  induction batches generalizing state with
  | nil => rfl
  | cons batch rest ih =>
    rw [run_scoreBatches_cons]
    split
    · simp [ih]
    · simp

/-- Every outcome is one that the channel gave. -/
theorem exists_exchange_of_mem_outcomesOf {batches : List Batch} {state : σ}
    {outcome : Except Failure Response} (houtcome : outcome ∈ outcomesOf
      ((scoreBatches channel client url headers query topN batches).run state).trace) :
    ∃ request before, (channel.exchange request before).1 = outcome := by
  induction batches generalizing state with
  | nil => contradiction
  | cons batch rest ih =>
    rw [run_scoreBatches_cons] at houtcome
    split at houtcome
    · rw [outcomesOf_append, outcomesOf_seen, List.mem_append, List.mem_singleton] at houtcome
      rcases houtcome with rfl | hlater
      · exact ⟨_, _, rfl⟩
      · exact ih hlater
    · rw [outcomesOf_seen, List.mem_singleton] at houtcome
      exact ⟨_, _, houtcome.symm⟩

/-- What came of the requests decides the result, and the batches that were asked about are as many
as there are outcomes. -/
theorem scoreBatches_answered (batches : List Batch) (state : σ) :
    let run := (scoreBatches channel client url headers query topN batches).run state
    ∃ result, Batch.Answered batches (outcomesOf run.trace) result ∧
      run.result = result.map (fun replies => Batch.collect batches (replies.map (List.take topN))) ∧
      requestsOf run.trace =
        (batches.take (outcomesOf run.trace).length).map (client.post url headers query) := by
  induction batches generalizing state with
  | nil => exact ⟨.ok [], .done, rfl, rfl⟩
  | cons batch rest ih =>
    simp only [run_scoreBatches_cons]
    generalize channel.exchange (client.post url headers query batch) state = exchanged
    obtain ⟨outcome, next⟩ := exchanged
    cases hreading : batch.reading outcome with
    | error failure =>
      refine ⟨.error failure, ?_, rfl, ?_⟩
      · simpa using .refused hreading
      · simp
    | ok rankings =>
      obtain ⟨result, hanswered, hresult, hrequests⟩ := ih next
      cases result with
      | error failure =>
        refine ⟨.error failure, ?_, ?_, ?_⟩
        · simpa using .stopped hreading hanswered
        · simp [hresult, Except.map]
        · simp [hrequests]
      | ok replies =>
        refine ⟨.ok (rankings :: replies), ?_, ?_, ?_⟩
        · simpa using .read hreading hanswered
        · simp [hresult, Except.map]
        · simp [hrequests]

end Reranker

end Rerank
