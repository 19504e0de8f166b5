import Rerank.Proofs.Ranking.EarlyCut
import Rerank.Proofs.Ranking.Provider

/-!
# The limit only selects

Calls that differ in their limits ask the same of the service and fail alike.  With a smaller limit
fewer items are returned, and none that is better than the one at the same place with a larger
limit.  They are the front of those with the larger limit if there is one batch only, or if the
service gives the best rankings of each batch first.
-/

namespace Rerank

/-- Whether a record is about a batch. -/
def LogRecord.isBatch : LogRecord → Bool
  | batchScored _ _ _ => true
  | _ => false

/-- The records about batches among observations. -/
def batchRecordsOf (trace : List Observation) : List LogRecord :=
  (logsOf trace).filter LogRecord.isBatch

/-- A sink that writes no records about batches. -/
def EventSink.Apart (sink : EventSink) : Prop :=
  ∀ event, batchRecordsOf (sink.deliver event) = []

theorem batchRecordsOf_append (first second : List Observation) :
    batchRecordsOf (first ++ second) = batchRecordsOf first ++ batchRecordsOf second := by
  simp [batchRecordsOf, logsOf]

/-- What no event adds anything to is empty for any number of events. -/
theorem view_announcements {β : Type} {view : List Observation → List β} {sink : EventSink}
    (hnil : view [] = [])
    (happend : ∀ first second, view (first ++ second) = view first ++ view second)
    (hdeliver : ∀ event, view (sink.deliver event) = []) (events : List Event) :
    view (events.flatMap sink.deliver) = [] := by
  induction events with
  | nil => exact hnil
  | cons event events ih => rw [List.flatMap_cons, happend, hdeliver, ih, List.append_nil]

/-- What a limit of `n` leaves of a result with a larger limit. -/
structure Selected {γ : Type} (score : γ → Score) (n size : Nat) (texts : List String)
    (replies : List (List Ranking)) (fewer results : List γ) : Prop where
  length_le : fewer.length ≤ results.length
  score_le : ∀ (k : Nat) a, fewer[k]? = some a → ∃ b, results[k]? = some b ∧ score a ≤ score b
  eq_take_of_one_batch : texts.length ≤ size → fewer = results.take n
  eq_take_of_bestRanked : (∀ rankings ∈ replies, BestRanked rankings) → fewer = results.take n

namespace Selected

variable {γ : Type} {score : γ → Score} {n m size : Nat} {texts : List String}
  {replies : List (List Ranking)} {fewer results : List γ}

theorem of_eq_take (heq : fewer = results.take n) :
    Selected score n size texts replies fewer results where
  length_le := by
    rw [heq, List.length_take]
    exact Nat.min_le_right _ _
  score_le k a ha := by
    rw [heq, List.getElem?_take] at ha
    split at ha
    · exact ⟨a, ha, Score.le_refl _⟩
    · contradiction
  eq_take_of_one_batch _ := heq
  eq_take_of_bestRanked _ := heq

/-- The results of elements that stand for others are selected as those are. -/
theorem of_map {δ : Type} {f : γ → δ} {score' : δ → Score}
    (hselected : Selected score' n size texts replies (fewer.map f) (results.map f))
    (hscore : ∀ a, score' (f a) = score a)
    (htake : fewer.map f = (results.take n).map f → fewer = results.take n) :
    Selected score n size texts replies fewer results where
  length_le := by simpa using hselected.length_le
  score_le k a ha := by
    obtain ⟨b, hb, hle⟩ := hselected.score_le k (f a) (by rw [List.getElem?_map, ha]; rfl)
    rw [List.getElem?_map] at hb
    obtain ⟨c, hc, rfl⟩ := Option.map_eq_some_iff.1 hb
    rw [hscore, hscore] at hle
    exact ⟨c, hc, hle⟩
  eq_take_of_one_batch hfew :=
    htake (by rw [hselected.eq_take_of_one_batch hfew, List.map_take])
  eq_take_of_bestRanked hbest :=
    htake (by rw [hselected.eq_take_of_bestRanked hbest, List.map_take])

end Selected

namespace Batch

variable {n m size : Nat} {texts : List String}

/-- From one batch, the front is the same for every longer front of its rankings. -/
theorem take_collect_of_length_le_one (hle : n ≤ m) {batches : List Batch}
    (hone : batches.length ≤ 1) (replies : List (List Ranking)) :
    (collect batches (replies.map (List.take n))).take n =
      (collect batches (replies.map (List.take m))).take n := by
  cases batches with
  | nil => simp
  | cons batch rest =>
    obtain rfl : rest = [] := by simpa using hone
    cases replies with
    | nil => simp [collect]
    | cons rankings more => simp [← List.map_take, List.take_take, Nat.min_eq_left hle]

/-- A merge with a smaller limit, also for each batch, selects. -/
theorem selected_merge (hle : n ≤ m) (hsize : 0 < size) (replies : List (List Ranking)) :
    Selected Item.score n size texts replies
      (merge texts.length size n (collect (split size texts) (replies.map (List.take n))))
      (merge texts.length size m (collect (split size texts) (replies.map (List.take m)))) := by
  have hbest (hreplies : ∀ rankings ∈ replies, BestRanked rankings) :
      merge texts.length size n (collect (split size texts) (replies.map (List.take n))) =
        (merge texts.length size m
          (collect (split size texts) (replies.map (List.take m)))).take n := by
    rw [merge_collect_take hsize hreplies, merge_collect_take hsize hreplies, List.take_take,
      Nat.min_eq_left hle]
  have hsublist := collect_take_sublist hle (split size texts) replies
  -- One batch is not sorted again: its front is cut from its reply.  Of several, the sorted items
  -- are cut, and those of the smaller limit are some of those of the larger one.
  by_cases hfew : texts.length ≤ size
  · refine .of_eq_take ?_
    have hnot : ¬ size < texts.length := Nat.not_lt.2 hfew
    rw [merge, merge, if_neg hnot, if_neg hnot, List.take_take, Nat.min_eq_left hle]
    exact take_collect_of_length_le_one hle (length_split_le_one hsize hfew) replies
  · have hmany : size < texts.length := Nat.lt_of_not_le hfew
    refine ⟨?_, ?_, fun hnot => absurd hnot hfew, hbest⟩
    · rw [length_merge, length_merge]
      exact min_le_min hle hsublist.length_le
    · intro k a ha
      rw [merge, if_pos hmany, List.getElem?_take] at ha
      split at ha
      · next hk =>
        have hsubperm := (bestFirst_perm _).subperm.trans
          (hsublist.subperm.trans (bestFirst_perm _).symm.subperm)
        obtain ⟨b, hb, hscore⟩ := score_le_of_subperm (isBestFirst_bestFirst _).descending
          (isBestFirst_bestFirst _).descending hsubperm ha
        refine ⟨b, ?_, hscore⟩
        rw [merge, if_pos hmany, List.getElem?_take_of_lt (Nat.lt_of_lt_of_le hk hle), hb]
      · contradiction

end Batch

/-- Entries are told by their items if their passages are known. -/
theorem Scored.eq_of_map_item {α : Type} {passages : List α} {first second : List (Scored α)}
    (hfirst : ∀ entry ∈ first, passages[entry.index]? = some entry.passage)
    (hsecond : ∀ entry ∈ second, passages[entry.index]? = some entry.passage)
    (hitems : first.map item = second.map item) : first = second := by
  have hfound {scored : List (Scored α)}
      (hscored : ∀ entry ∈ scored, passages[entry.index]? = some entry.passage) :
      scored.map Except.ok = (scored.map item).map (Reranker.passageOf passages) := by
    rw [List.map_map]
    refine List.map_congr_left fun entry hentry => ?_
    simp [Reranker.passageOf, item, hscored entry hentry]
  have hmap : first.map (Except.ok (ε := Failure)) = second.map Except.ok := by
    rw [hfound hfirst, hfound hsecond, hitems]
  exact (List.map_inj_right fun _ _ heq => Except.ok.inj heq).1 hmap

namespace Reranker

/-- The client with another limit. -/
def limited (client : Reranker) (topN : Nat) : Reranker :=
  { client with service := { client.service with topN } }

theorem scoreBatches_limited (channel : Channel σ) (client : Reranker) (limit : Nat) (url : Url)
    (headers : Headers) (query : String) (topN : Nat) (batches : List Batch) :
    scoreBatches channel (client.limited limit) url headers query topN batches =
      scoreBatches channel client url headers query topN batches := by
  induction batches with
  | nil => rfl
  | cons batch rest ih =>
    rw [scoreBatches, ih]
    rfl

/-- What two calls with limits `n` and `m` have in common: what they do and see between what they
announce. -/
structure SameScoring {σ β : Type} (client : Reranker) (query : String) (texts : List String)
    (n m : Nat) (first second : Run σ β) : Prop where
  state_eq : first.state = second.state
  requests_eq : requestsOf first.trace = requestsOf second.trace
  outcomes_eq : outcomesOf first.trace = outcomesOf second.trace
  records_eq : client.sink.Apart → batchRecordsOf first.trace = batchRecordsOf second.trace
  /-- Whatever the sink does, all else that is seen is the same. -/
  scoring_eq : ∃ scoring events events', eventsOf scoring = [] ∧
    first.trace =
      client.opening query texts n ++ scoring ++ List.flatMap client.sink.deliver events ∧
    second.trace =
      client.opening query texts m ++ scoring ++ List.flatMap client.sink.deliver events'

variable {σ : Type} {channel : Channel σ} {client : Reranker} {query : String}
  {texts : List String} {n m : Nat} {state : σ}

section SameScoring

variable {β γ : Type} {first second : Run σ β} {first' second' : Run σ γ}

theorem SameScoring.of_scoring (hstate : first.state = second.state)
    (hscoring : ∃ scoring events events', eventsOf scoring = [] ∧
      first.trace =
        client.opening query texts n ++ scoring ++ List.flatMap client.sink.deliver events ∧
      second.trace =
        client.opening query texts m ++ scoring ++ List.flatMap client.sink.deliver events') :
    SameScoring client query texts n m first second := by
  have hrequests (events : List Event) :=
    view_announcements rfl requestsOf_append (requestsOf_deliver client.sink) events
  have houtcomes (events : List Event) :=
    view_announcements rfl outcomesOf_append (outcomesOf_deliver client.sink) events
  have hrecords (hapart : client.sink.Apart) (events : List Event) :=
    view_announcements rfl batchRecordsOf_append hapart events
  obtain ⟨scoring, events, events', -, hfirst, hsecond⟩ := id hscoring
  refine ⟨hstate, ?_, ?_, fun hapart => ?_, hscoring⟩
  · simp [hfirst, hsecond, hrequests]
  · simp [hfirst, hsecond, houtcomes]
  · simp only [hfirst, hsecond, batchRecordsOf_append, hrecords hapart, opening, hapart _]

/-- Calls that do and see the same as two others have the same in common. -/
theorem SameScoring.of_same (hsame : SameScoring client query texts n m first second)
    (hfirst : first'.state = first.state ∧ first'.trace = first.trace)
    (hsecond : second'.state = second.state ∧ second'.trace = second.trace) :
    SameScoring client query texts n m first' second' :=
  .of_scoring (by rw [hfirst.1, hsecond.1, hsame.state_eq])
    (by rw [hfirst.2, hsecond.2]; exact hsame.scoring_eq)

theorem SameScoring.rankingsOf_eq (hsame : SameScoring client query texts n m first second) :
    rankingsOf first.trace = rankingsOf second.trace := by
  rw [rankingsOf, rankingsOf, repliesOf_eq_filterMap, repliesOf_eq_filterMap, hsame.outcomes_eq]

end SameScoring

section Calls

variable [Url.Idna]

theorem sameScoring_rank (channel : Channel σ) (client : Reranker) (query : String)
    (texts : List String) (n m : Nat) (state : σ) :
    SameScoring client query texts n m ((rank channel client query texts n).run state)
      ((rank channel client query texts m).run state) := by
  obtain ⟨read, next, scoring, hscoring, hrun⟩ := exists_run_rank channel client state query texts
  have hending (result : Except Failure (List Item)) :
      ∃ events, (if texts = [] then [] else client.closing result) =
        List.flatMap client.sink.deliver events := by
    cases result with
    | error failure => exact ⟨[], by simp [closing]⟩
    | ok items =>
      by_cases htexts : texts = []
      · exact ⟨[], by simp [htexts]⟩
      · exact ⟨[.ended client.service.model items], by simp [htexts, closing]⟩
  rw [hrun, hrun]
  obtain ⟨events, hevents⟩ := hending _
  obtain ⟨events', hevents'⟩ := hending _
  exact .of_scoring rfl ⟨scoring, events, events', hscoring, by rw [hevents], by rw [hevents']⟩

theorem agree_rank (channel : Channel σ) (hsize : 0 < client.service.maxBatchSize)
    (query : String) (texts : List String) (hle : n ≤ m) (state : σ) :
    Agree (Selected Item.score n client.service.maxBatchSize texts
        (rankingsOf ((rank channel client query texts n).run state).trace))
      ((rank channel client query texts n).run state).result
      ((rank channel client query texts m).run state).result := by
  have hsame := sameScoring_rank channel client query texts n m state
  obtain ⟨read, next, scoring, -, hrun⟩ := exists_run_rank channel client state query texts
  -- Whether the replies can be read is settled without the limit.
  cases read with
  | error failure =>
    rw [hrun, hrun]
    exact .error failure
  | ok replies =>
    obtain ⟨fewer, hfewer⟩ :
        ∃ items, ((rank channel client query texts n).run state).result = .ok items :=
      ⟨_, by rw [hrun]; rfl⟩
    obtain ⟨items, hitems⟩ :
        ∃ items, ((rank channel client query texts m).run state).result = .ok items :=
      ⟨_, by rw [hrun]; rfl⟩
    rw [hfewer, hitems]
    refine .ok ?_
    rw [(ranked_of_rank hfewer).items_eq, (ranked_of_rank hitems).items_eq, ← hsame.rankingsOf_eq]
    exact Batch.selected_merge hle hsize _

/-! ## Limits of clients -/

/-- The limit of a client does not matter to a call that is given one. -/
theorem rank_limited (channel : Channel σ) (client : Reranker) (limit : Nat) (query : String)
    (texts : List String) (topN : Nat) :
    rank channel (client.limited limit) query texts topN =
      rank channel client query texts topN := by
  simp only [rank, scoreBatches_limited]
  rfl

theorem agree_rerank {α : Type} [Passage α] (channel : Channel σ)
    (hsize : 0 < client.service.maxBatchSize) (query : String) (passages : List α) (hle : n ≤ m)
    (state : σ) :
    Agree (Selected Scored.score n client.service.maxBatchSize (passages.map Passage.content)
        (rankingsOf ((rerank channel (client.limited n) query passages).run state).trace))
      ((rerank channel (client.limited n) query passages).run state).result
      ((rerank channel (client.limited m) query passages).run state).result := by
  have hrank := agree_rank channel hsize query (passages.map Passage.content) hle state
  have hlimited (limit : Nat) : (rank channel (client.limited limit) query
      (passages.map Passage.content) (client.limited limit).service.topN).run state =
        (rank channel client query (passages.map Passage.content) limit).run state := by
    rw [rank_limited]
    rfl
  rw [trace_rerank, hlimited]
  generalize hfewer :
    ((rank channel client query (passages.map Passage.content) n).run state).result = fewer at hrank
  generalize hitems :
    ((rank channel client query (passages.map Passage.content) m).run state).result = items at hrank
  rw [← hlimited] at hfewer hitems
  cases hrank with
  | error failure =>
    rw [result_rerank_of_error hfewer, result_rerank_of_error hitems]
    exact .error failure
  | ok hselected =>
    have hpositive (limit : Nat) : 0 < (client.limited limit).service.maxBatchSize := hsize
    obtain ⟨scored, hscored, rfl, hfound⟩ := result_rerank_of_ok (hpositive n) hfewer
    obtain ⟨scored', hscored', rfl, hfound'⟩ := result_rerank_of_ok (hpositive m) hitems
    rw [hscored, hscored']
    refine .ok (hselected.of_map (fun _ => rfl) fun htake => ?_)
    exact Scored.eq_of_map_item hfound
      (fun entry hentry => hfound' entry (List.mem_of_mem_take hentry)) htake

/-- The limit only selects, for ranking texts, providing an answer and ranking passages alike: calls
with limits `n ≤ m` send the same requests, see the same replies and write the same records about
batches.  They fail alike, or the first returns no more items than the second and none that is
better than the one at the same place of the second; it returns the front of what the second does if
there is one batch only, or if each reply has its best rankings first. -/
theorem limit_selects (channel : Channel σ) {client : Reranker} (hclient : client.Connected)
    (query : String) {n m : Nat} (hle : n ≤ m) (state : σ) :
    (∀ texts,
      let first := (rank channel client query texts n).run state
      let second := (rank channel client query texts m).run state
      SameScoring client query texts n m first second ∧
        Agree (Selected Item.score n client.service.maxBatchSize texts (rankingsOf first.trace))
          first.result second.result) ∧
    (∀ documents (limit other : Option Nat), limit.getD client.service.topN = n →
      other.getD client.service.topN = m →
      let first := (provide channel client query documents limit).run state
      let second := (provide channel client query documents other).run state
      SameScoring client query documents n m first second ∧
        Agree (fun answer answer' =>
            answer.provider = answer'.provider ∧ answer.model = answer'.model ∧
            Selected Item.score n client.service.maxBatchSize documents (rankingsOf first.trace)
              answer.items answer'.items)
          first.result second.result) ∧
    ∀ (α : Type) [Passage α] (passages : List α),
      let first := (rerank channel (client.limited n) query passages).run state
      let second := (rerank channel (client.limited m) query passages).run state
      SameScoring client query (passages.map Passage.content) n m first second ∧
        Agree (Selected Scored.score n client.service.maxBatchSize
            (passages.map Passage.content) (rankingsOf first.trace))
          first.result second.result := by
  have hsize := hclient.maxBatchSize_pos
  refine ⟨fun texts => ⟨sameScoring_rank channel client query texts n m state,
    agree_rank channel hsize query texts hle state⟩, ?_, ?_⟩
  · rintro documents limit other rfl rfl
    dsimp only
    rw [run_provide, run_provide]
    refine ⟨(sameScoring_rank channel client query documents _ _ state).of_same ⟨rfl, rfl⟩
      ⟨rfl, rfl⟩, ?_⟩
    exact (agree_rank channel hsize query documents hle state).map
      fun _ _ hselected => ⟨rfl, rfl, hselected⟩
  · intro α _ passages
    have hsame (limit : Nat) :
        ((rerank channel (client.limited limit) query passages).run state).state =
            ((rank channel client query (passages.map Passage.content) limit).run state).state ∧
          ((rerank channel (client.limited limit) query passages).run state).trace =
            ((rank channel client query (passages.map Passage.content) limit).run state).trace := by
      rw [run_rerank, rank_limited]
      exact ⟨rfl, rfl⟩
    exact ⟨(sameScoring_rank channel client query _ n m state).of_same (hsame n) (hsame m),
      agree_rerank channel hsize query passages hle state⟩

end Calls

/-- Replies to two pairs of passages, the first of which has its best ranking last. -/
def risingReplies : List Response :=
  [ jsonReply "\x7b\"rankings\": [[0, 1], [1, 5]]\x7d",
    jsonReply "\x7b\"rankings\": [[0, 2]]\x7d" ]

theorem result_rank_of_risingReplies {topN : Nat} (scored : List Item) {items : List Item}
    (hscored : ((scoreBatches Channel.scripted hostedInPairs hostedInPairs.service.baseUrl
      ⟨some "Bearer key"⟩ "q" topN (Batch.split 2 ["a", "b", "c"])).run risingReplies).result =
        .ok scored)
    (hitems : merge 3 2 topN scored = items) :
    ((rank Channel.scripted hostedInPairs "q" ["a", "b", "c"] topN).run risingReplies).result =
      .ok items := by
  rw [← hitems]
  exact result_rank_of_scored (by decide +kernel) (by simp) addressing_hostedInPairs hscored

/-- What is returned with a limit of one is not the first of what is returned with a limit of two,
and its score is not above that of the first. -/
theorem limit_selects_of_risingReplies :
    let first := (rank Channel.scripted hostedInPairs "q" ["a", "b", "c"] 1).run risingReplies
    let second := (rank Channel.scripted hostedInPairs "q" ["a", "b", "c"] 2).run risingReplies
    hostedInPairs.Connected ∧ 1 ≤ 2 ∧
      first.result = .ok [⟨2, ⟨0x40000000⟩⟩] ∧
      second.result = .ok [⟨1, ⟨0x40a00000⟩⟩, ⟨2, ⟨0x40000000⟩⟩] ∧
      SameScoring hostedInPairs "q" ["a", "b", "c"] 1 2 first second ∧
      Agree (Selected Item.score 1 2 ["a", "b", "c"] (rankingsOf first.trace))
        first.result second.result := by
  intro first second
  have hfirst : first.result = .ok [⟨2, ⟨0x40000000⟩⟩] :=
    result_rank_of_risingReplies [⟨0, ⟨0x3f800000⟩⟩, ⟨2, ⟨0x40000000⟩⟩] (by decide +kernel)
      (by cbv)
  have hsecond : second.result = .ok [⟨1, ⟨0x40a00000⟩⟩, ⟨2, ⟨0x40000000⟩⟩] :=
    result_rank_of_risingReplies
      [⟨0, ⟨0x3f800000⟩⟩, ⟨1, ⟨0x40a00000⟩⟩, ⟨2, ⟨0x40000000⟩⟩] (by decide +kernel) (by cbv)
  exact ⟨connected_hostedInPairs, by decide, hfirst, hsecond,
    (limit_selects Channel.scripted connected_hostedInPairs "q" (by decide) risingReplies).1 _⟩

end Reranker

end Rerank
