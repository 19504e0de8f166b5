import Rerank.Proofs.Ranking.Basic

/-!
# Results are the service's own rankings

Every item of a result is a ranking that the service gave, of the passage that was sent at that place
of that batch.  No passage is returned twice, none is returned that was not given, and the result is
as long as the limit and the replies allow.  So a passage can always be found for an item.
-/

namespace Rerank

/-- The item of a returned passage. -/
def Scored.item {α : Type} (entry : Scored α) : Item where
  index := entry.index
  score := entry.score

namespace Reranker

/-- In a call with batches of `size`, the text was sent in the batch and at the place that the index
of the item gives, and the reply to that batch ranks that place with the score of the item. -/
structure ScoredIn (size : Nat) (trace : List Observation) (text : String) (item : Item) : Prop where
  sent : ∃ request payload, (requestsOf trace)[item.index / size]? = some request ∧
    request.payload = some payload ∧ payload.passages[item.index % size]? = some text
  ranked : ∃ reply rankings, (repliesOf trace)[item.index / size]? = some reply ∧
    parseRankings reply.body = .ok rankings ∧
    { index := item.index % size, score := item.score } ∈ rankings

/-- What the items of a call are allowed to be. -/
structure Sound (size topN : Nat) (texts : List String) (trace : List Observation)
    (items : List Item) : Prop where
  distinct : (items.map Item.index).Nodup
  scored : ∀ item ∈ items, ∃ text, texts[item.index]? = some text ∧
    ScoredIn size trace text item
  length_eq : items.length = min topN ((rankingsOf trace).map List.length).sum
  length_le : items.length ≤ min topN texts.length

variable {client : Reranker} {query : String} {texts : List String} {topN : Nat}
  {trace : List Observation} {items : List Item}

theorem Ranked.distinct (hranked : Ranked client query texts topN trace items)
    (hsize : 0 < client.service.maxBatchSize) : (items.map Item.index).Nodup := by
  have hcollected := (hranked.fitting.take topN).nodup_collect
    (Batch.pairwise_before_split hsize texts)
  obtain ⟨kept, hperm, hsublist⟩ := merge_subperm texts.length client.service.maxBatchSize topN
    (Batch.collect (Batch.split client.service.maxBatchSize texts)
      ((rankingsOf trace).map (List.take topN)))
  rw [← hranked.items_eq] at hperm
  exact (hperm.map Item.index).nodup (hcollected.sublist (hsublist.map Item.index))

theorem Ranked.request_of_batch (hranked : Ranked client query texts topN trace items) {k : Nat}
    {batch : Batch} (hbatch : (Batch.split client.service.maxBatchSize texts)[k]? = some batch) :
    ∃ request, (requestsOf trace)[k]? = some request ∧
      request.payload = some (client.payload query batch) := by
  have hasked := congrArg (·[k]?) hranked.asked
  simp only [List.getElem?_map, hbatch, Option.map_some] at hasked
  exact Option.map_eq_some_iff.1 hasked

theorem Ranked.reply_of_rankings (hranked : Ranked client query texts topN trace items) {k : Nat}
    {rankings : List Ranking} (hrankings : (rankingsOf trace)[k]? = some rankings) :
    ∃ reply, (repliesOf trace)[k]? = some reply ∧ parseRankings reply.body = .ok rankings := by
  have hparsed := congrArg (·[k]?) hranked.parsed
  simp only [List.getElem?_map, hrankings, Option.map_some] at hparsed
  exact Option.map_eq_some_iff.1 hparsed

theorem Ranked.scored (hranked : Ranked client query texts topN trace items)
    (hsize : 0 < client.service.maxBatchSize) {item : Item} (hitem : item ∈ items) :
    ∃ text, texts[item.index]? = some text ∧
      ScoredIn client.service.maxBatchSize trace text item := by
  rw [hranked.items_eq] at hitem
  obtain ⟨k, batch, cut, ranking, hbatch, hcut, hranking, rfl⟩ :=
    Batch.mem_collect ((merge_subperm _ _ _ _).subset hitem)
  have hplace := ((hranked.fitting.take topN).getElem? hbatch hcut).inRange ranking hranking
  rw [List.getElem?_map] at hcut
  obtain ⟨rankings, hrankings, rfl⟩ := Option.map_eq_some_iff.1 hcut
  obtain ⟨request, hrequest, hpayload⟩ := hranked.request_of_batch hbatch
  obtain ⟨reply, hreply, hparse⟩ := hranked.reply_of_rankings hrankings
  obtain rfl := Batch.eq_nth_of_getElem? hsize hbatch
  rw [Batch.length_texts_nth, Nat.lt_min] at hplace
  -- The index of the item is made of the batch and the place in it, and gives both back.
  have hindex : ((Batch.nth client.service.maxBatchSize texts k).item ranking).index =
      k * client.service.maxBatchSize + ranking.index := rfl
  have hquotient : (k * client.service.maxBatchSize + ranking.index) /
      client.service.maxBatchSize = k := Batch.div_of_place hplace.1
  have hremainder : (k * client.service.maxBatchSize + ranking.index) %
      client.service.maxBatchSize = ranking.index := Nat.mul_add_mod_of_lt hplace.1
  have hgiven : k * client.service.maxBatchSize + ranking.index < texts.length := by omega
  refine ⟨texts[k * client.service.maxBatchSize + ranking.index],
    List.getElem?_eq_getElem hgiven, ⟨?_, ?_⟩⟩
  · rw [hindex, hquotient, hremainder]
    refine ⟨request, _, hrequest, hpayload, ?_⟩
    change (Batch.nth client.service.maxBatchSize texts k).texts[ranking.index]? = _
    rw [Batch.getElem?_texts_nth texts k hplace.1, List.getElem?_eq_getElem hgiven]
  · rw [hindex, hquotient, hremainder]
    exact ⟨reply, rankings, hreply, hparse, List.mem_of_mem_take hranking⟩

/-- Cutting each of some numbers to `n` does not matter if their sum is cut to `n`. -/
theorem min_sum_map_min (n : Nat) (numbers : List Nat) :
    min n (numbers.map (min n)).sum = min n numbers.sum := by
  induction numbers with
  | nil => rfl
  | cons number numbers ih =>
    simp only [List.map_cons, List.sum_cons]
    omega

theorem Ranked.length_eq (hranked : Ranked client query texts topN trace items) :
    items.length = min topN ((rankingsOf trace).map List.length).sum := by
  have hlength : (Batch.split client.service.maxBatchSize texts).length =
      ((rankingsOf trace).map (List.take topN)).length := (hranked.fitting.take topN).length_eq
  have hcut : ((rankingsOf trace).map (List.take topN)).map List.length =
      ((rankingsOf trace).map List.length).map (min topN) := by
    simp [Function.comp_def]
  rw [hranked.items_eq, length_merge, Batch.length_collect hlength, hcut, min_sum_map_min]

theorem Ranked.sound (hranked : Ranked client query texts topN trace items)
    (hsize : 0 < client.service.maxBatchSize) :
    Sound client.service.maxBatchSize topN texts trace items where
  distinct := hranked.distinct hsize
  scored _ hitem := hranked.scored hsize hitem
  length_eq := hranked.length_eq
  length_le := by
    refine Nat.le_min.2 ⟨hranked.length_eq ▸ Nat.min_le_left _ _, ?_⟩
    rw [← List.length_map (f := Item.index)]
    refine length_le_of_nodup_of_lt (hranked.distinct hsize) fun index hindex => ?_
    obtain ⟨item, hitem, rfl⟩ := List.mem_map.1 hindex
    obtain ⟨text, htext, -⟩ := hranked.scored hsize hitem
    exact (List.getElem?_eq_some_iff.1 htext).1

/-! ## Returned passages -/

/-- Every item gets its passage if there is one for each. -/
theorem mapM_passageOf {α : Type} {passages : List α} {items : List Item}
    (hpassages : ∀ item ∈ items, item.index < passages.length) :
    ∃ scored, items.mapM (passageOf passages) = .ok scored ∧ scored.map Scored.item = items ∧
      ∀ entry ∈ scored, passages[entry.index]? = some entry.passage := by
  induction items with
  | nil => exact ⟨[], rfl, rfl, by simp⟩
  | cons item items ih =>
    obtain ⟨hitem, hitems⟩ := List.forall_mem_cons.1 hpassages
    obtain ⟨scored, hscored, hmap, hfound⟩ := ih hitems
    have hpassage : passages[item.index]? = some passages[item.index] :=
      List.getElem?_eq_getElem hitem
    have hfirst : passageOf passages item =
        .ok { index := item.index, passage := passages[item.index], score := item.score } := by
      rw [passageOf, hpassage]
    refine ⟨{ index := item.index, passage := passages[item.index], score := item.score } :: scored,
      ?_, ?_, List.forall_mem_cons.2 ⟨hpassage, hfound⟩⟩
    · rw [List.mapM_cons, hfirst, hscored]
      rfl
    · rw [List.map_cons, hmap]
      rfl

section Calls

variable [Url.Idna] {σ α : Type} [Passage α]

/-- Ranking passages is ranking their texts and finding the passages. -/
theorem run_rerank (channel : Channel σ) (client : Reranker) (query : String) (passages : List α)
    (state : σ) :
    (rerank channel client query passages).run state =
      let ranking := (rank channel client query (passages.map Passage.content)
        client.service.topN).run state
      { result := ranking.result.bind fun items => items.mapM (passageOf passages)
        state := ranking.state
        trace := ranking.trace } := by
  rw [rerank, Action.run_bind]
  generalize (rank channel client query (passages.map Passage.content)
    client.service.topN).run state = ranking
  obtain ⟨result, next, trace⟩ := ranking
  cases result with
  | error failure => rfl
  | ok items =>
    change (⟨_, _, trace ++ []⟩ : Run σ (List (Scored α))) = _
    rw [List.append_nil]
    rfl

@[simp]
theorem trace_rerank (channel : Channel σ) (client : Reranker) (query : String)
    (passages : List α) (state : σ) :
    ((rerank channel client query passages).run state).trace =
      ((rank channel client query (passages.map Passage.content)
        client.service.topN).run state).trace := by
  rw [run_rerank]

theorem result_rerank_of_error {channel : Channel σ} {client : Reranker} {query : String}
    {passages : List α} {state : σ} {failure : Failure}
    (hrank : ((rank channel client query (passages.map Passage.content)
      client.service.topN).run state).result = .error failure) :
    ((rerank channel client query passages).run state).result = .error failure := by
  rw [run_rerank]
  dsimp only
  rw [hrank]
  rfl

/-- If ranking the texts succeeds, so does ranking the passages: there is one for every item. -/
theorem result_rerank_of_ok {channel : Channel σ} {client : Reranker} {query : String}
    {passages : List α} {state : σ} {items : List Item} (hsize : 0 < client.service.maxBatchSize)
    (hrank : ((rank channel client query (passages.map Passage.content)
      client.service.topN).run state).result = .ok items) :
    ∃ scored, ((rerank channel client query passages).run state).result = .ok scored ∧
      scored.map Scored.item = items ∧
      ∀ entry ∈ scored, passages[entry.index]? = some entry.passage := by
  have hgiven : ∀ item ∈ items, item.index < passages.length := by
    intro item hitem
    obtain ⟨text, htext, -⟩ := (ranked_of_rank hrank).scored hsize hitem
    simpa using (List.getElem?_eq_some_iff.1 htext).1
  obtain ⟨scored, hscored, hmap, hfound⟩ := mapM_passageOf hgiven
  refine ⟨scored, ?_, hmap, hfound⟩
  rw [run_rerank]
  dsimp only
  rw [hrank]
  exact hscored

/-- The items of returned passages are those of their texts. -/
theorem result_rank_of_rerank {channel : Channel σ} {client : Reranker} {query : String}
    {passages : List α} {state : σ} {scored : List (Scored α)}
    (hsize : 0 < client.service.maxBatchSize)
    (hscored : ((rerank channel client query passages).run state).result = .ok scored) :
    ((rank channel client query (passages.map Passage.content)
      client.service.topN).run state).result = .ok (scored.map Scored.item) := by
  cases hrank : ((rank channel client query (passages.map Passage.content)
      client.service.topN).run state).result with
  | error failure =>
    rw [result_rerank_of_error hrank] at hscored
    contradiction
  | ok items =>
    obtain ⟨found, hfound, hmap, -⟩ := result_rerank_of_ok hsize hrank
    obtain rfl : found = scored := Except.ok.inj (hfound.symm.trans hscored)
    rw [hmap]

/-- Ranking passages fails exactly as ranking their texts does. -/
theorem result_rerank_eq_error_iff {channel : Channel σ} {client : Reranker} {query : String}
    {passages : List α} {state : σ} (hsize : 0 < client.service.maxBatchSize) {failure : Failure} :
    ((rerank channel client query passages).run state).result = .error failure ↔
      ((rank channel client query (passages.map Passage.content)
        client.service.topN).run state).result = .error failure := by
  cases hrank : ((rank channel client query (passages.map Passage.content)
      client.service.topN).run state).result with
  | error cause => simp [result_rerank_of_error hrank]
  | ok items =>
    obtain ⟨scored, hscored, -⟩ := result_rerank_of_ok hsize hrank
    simp [hscored]

/-- Results are sound: the items of a call that succeeds have distinct indices, each is a ranking of
the reply to its batch of the text at its index, and there are as many as the limit and the replies
allow.  Ranking passages adds no failure of its own, and returns passages that were given at the
places at which they were scored. -/
theorem rank_sound (channel : Channel σ) {client : Reranker} (hclient : client.Connected)
    (query : String) (state : σ) :
    (∀ texts topN items,
      ((rank channel client query texts topN).run state).result = .ok items →
        Sound client.service.maxBatchSize topN texts
          ((rank channel client query texts topN).run state).trace items) ∧
    ∀ (α : Type) [Passage α] (passages : List α),
      let ranking := (rank channel client query (passages.map Passage.content)
        client.service.topN).run state
      let reranking := (rerank channel client query passages).run state
      reranking.trace = ranking.trace ∧
      (∀ failure, reranking.result = .error failure ↔ ranking.result = .error failure) ∧
      ∀ scored, reranking.result = .ok scored →
        ranking.result = .ok (scored.map Scored.item) ∧
        ∀ entry ∈ scored, passages[entry.index]? = some entry.passage ∧
          ScoredIn client.service.maxBatchSize reranking.trace (Passage.content entry.passage)
            entry.item := by
  have hsize := hclient.maxBatchSize_pos
  refine ⟨fun texts topN items hrank => (ranked_of_rank hrank).sound hsize, ?_⟩
  intro α _ passages
  dsimp only
  refine ⟨trace_rerank channel client query passages state, ?_⟩
  cases hrank : ((rank channel client query (passages.map Passage.content)
      client.service.topN).run state).result with
  | error failure =>
    rw [result_rerank_of_error hrank]
    simp
  | ok items =>
    obtain ⟨found, hfound, hmap, hpassages⟩ := result_rerank_of_ok hsize hrank
    refine ⟨fun failure => by simp [hfound], fun scored hscored => ?_⟩
    obtain rfl : found = scored := Except.ok.inj (hfound.symm.trans hscored)
    refine ⟨by rw [hmap], fun entry hentry => ⟨hpassages entry hentry, ?_⟩⟩
    obtain ⟨text, htext, hscoredIn⟩ := (ranked_of_rank hrank).scored hsize
      (hmap ▸ List.mem_map_of_mem hentry)
    rw [List.getElem?_map] at htext
    obtain ⟨passage, hpassage, rfl⟩ := Option.map_eq_some_iff.1 htext
    obtain rfl : entry.passage = passage :=
      Option.some.inj ((hpassages entry hentry).symm.trans hpassage)
    rw [trace_rerank]
    exact hscoredIn

end Calls

/-- Three passages in two batches, of which the better two are kept. -/
theorem rank_sound_hostedInPairs :
    let run := (rank Channel.scripted hostedInPairs "q" ["a", "b", "c"] 2).run pairReplies
    hostedInPairs.Connected ∧ run.result = .ok [⟨2, ⟨0x40400000⟩⟩, ⟨1, ⟨0x40000000⟩⟩] ∧
      Sound 2 2 ["a", "b", "c"] run.trace [⟨2, ⟨0x40400000⟩⟩, ⟨1, ⟨0x40000000⟩⟩] :=
  ⟨connected_hostedInPairs, result_rank_hostedInPairs,
    (rank_sound Channel.scripted connected_hostedInPairs "q" pairReplies).1 _ _ _
      result_rank_hostedInPairs⟩

end Reranker

end Rerank
