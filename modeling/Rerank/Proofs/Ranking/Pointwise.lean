import Rerank.Proofs.Ranking.EarlyCut

/-!
# Services that score each text for itself

If the score of a text depends on the query and the text alone, the result of a call does not depend
on how its texts are cut into batches: for every score, each batch adds the texts of that score in
their order, so that all batches together give what one would.  If no two texts have the same score,
the order in which they are given does not matter either.
-/

namespace Rerank

/-- The rankings of texts that are scored one by one, in the order of the texts. -/
def rankTexts (score : String → Score) (texts : List String) : List Ranking :=
  texts.mapIdx fun place text => { index := place, score := score text }

/-- The items of texts that are scored one by one, in the order of the texts. -/
def scoreTexts (score : String → Score) (texts : List String) : List Item :=
  texts.mapIdx fun place text => { index := place, score := score text }

/-- The rankings are those of texts that are scored one by one, the best first; of equal ones the
earlier text comes first. -/
structure Pointwise (score : String → Score) (texts : List String) (rankings : List Ranking) :
    Prop where
  all : rankings.Perm (rankTexts score texts)
  ordered : rankings.Pairwise fun a b =>
    b.score < a.score ∨ a.score = b.score ∧ a.index < b.index

variable {score : String → Score} {texts : List String} {rankings : List Ranking}

theorem map_index_rankTexts (score : String → Score) (texts : List String) :
    (rankTexts score texts).map Ranking.index = List.range texts.length := by
  apply List.ext_getElem?
  intro place
  rw [rankTexts, List.getElem?_map, List.getElem?_mapIdx]
  by_cases hplace : place < texts.length
  · rw [List.getElem?_range hplace, List.getElem?_eq_getElem hplace]
    rfl
  · rw [List.getElem?_eq_none (Nat.le_of_not_lt hplace),
      List.getElem?_eq_none (by simpa using hplace)]
    rfl

namespace Pointwise

theorem bestRanked (hpointwise : Pointwise score texts rankings) : BestRanked rankings := by
  apply hpointwise.ordered.imp
  intro a b hab
  rcases hab with hbetter | ⟨hequal, -⟩
  · exact Score.le_of_lt hbetter
  · rw [hequal]
    exact Score.le_refl _

theorem fits (hpointwise : Pointwise score texts rankings) : Fits texts.length rankings := by
  have hindices : (rankings.map Ranking.index).Perm (List.range texts.length) := by
    rw [← map_index_rankTexts score texts]
    exact hpointwise.all.map Ranking.index
  constructor
  · intro ranking hranking
    exact List.mem_range.1 (hindices.subset (List.mem_map_of_mem hranking))
  · exact hindices.symm.nodup List.nodup_range

/-- The rankings of one score stand in the order of the texts. -/
theorem filter_eq (hpointwise : Pointwise score texts rankings) (wanted : Score) :
    rankings.filter (·.score = wanted) = (rankTexts score texts).filter (·.score = wanted) := by
  have hlisted : (rankTexts score texts).Pairwise fun a b => a.index < b.index := by
    rw [← List.pairwise_map, map_index_rankTexts]
    exact List.pairwise_lt_range
  have hgiven : (rankings.filter (·.score = wanted)).Pairwise fun a b => a.index < b.index := by
    apply (hpointwise.ordered.filter _).imp_of_mem
    intro a b ha hb hab
    simp only [List.mem_filter, decide_eq_true_eq] at ha hb
    rcases hab with hbetter | ⟨-, hindex⟩
    · rw [ha.2, hb.2] at hbetter
      exact absurd hbetter (Score.lt_irrefl wanted)
    · exact hindex
  apply List.Perm.eq_of_pairwise _ hgiven (hlisted.filter _) (hpointwise.all.filter _)
  intro a b _ _ hab hba
  exact absurd hba (Nat.lt_asymm hab)

end Pointwise

namespace Batch

variable {size : Nat} {batches : List Batch} {replies : List (List Ranking)}

/-- The items of a batch of texts that are scored one by one are those at its place among all. -/
theorem map_item_nth (score : String → Score) (size : Nat) (texts : List String) (k : Nat) :
    (rankTexts score (nth size texts k).texts).map (nth size texts k).item =
      ((scoreTexts score texts).drop (k * size)).take size := by
  apply List.ext_getElem?
  intro place
  rw [rankTexts, scoreTexts, nth, List.getElem?_map, List.getElem?_mapIdx]
  by_cases hplace : place < size
  · rw [List.getElem?_take_of_lt hplace, List.getElem?_take_of_lt hplace, List.getElem?_drop,
      List.getElem?_drop, List.getElem?_mapIdx, Option.map_map]
    rfl
  · have hbeyond : size ≤ place := Nat.le_of_not_lt hplace
    rw [List.getElem?_take_eq_none hbeyond, List.getElem?_take_eq_none hbeyond]
    rfl

/-- All batches together score all texts. -/
theorem collect_split_rankTexts (hsize : 0 < size) (score : String → Score)
    (texts : List String) :
    collect (split size texts) ((split size texts).map fun batch => rankTexts score batch.texts) =
      scoreTexts score texts := by
  have hlength : (scoreTexts score texts).length = texts.length := List.length_mapIdx
  calc
    collect (split size texts) ((split size texts).map fun batch => rankTexts score batch.texts) =
        ((split size texts).map fun batch =>
          (rankTexts score batch.texts).map batch.item).flatten := by
      rw [collect, List.zipWith_map_right, List.zipWith_self]
    _ = (pieces size (scoreTexts score texts)).flatten := by
      rw [split_eq_map_range hsize, pieces_eq_map_range hsize, List.map_map, hlength]
      congr 2
      funext k
      exact map_item_nth score size texts k
    _ = scoreTexts score texts := flatten_pieces size _

/-- The texts of each batch are scored one by one. -/
def AllPointwise (score : String → Score) (batches : List Batch) (replies : List (List Ranking)) :
    Prop :=
  List.Forall₂ (fun batch rankings => Pointwise score batch.texts rankings) batches replies

theorem AllPointwise.bestRanked (hreplies : AllPointwise score batches replies) :
    ∀ rankings ∈ replies, BestRanked rankings := by
  induction hreplies with
  | nil => simp
  | cons hpointwise _ ih => exact List.forall_mem_cons.2 ⟨hpointwise.bestRanked, ih⟩

theorem AllPointwise.filter_collect (hreplies : AllPointwise score batches replies)
    (wanted : Score) :
    (collect batches replies).filter (·.score = wanted) =
      (collect batches (batches.map fun batch => rankTexts score batch.texts)).filter
        (·.score = wanted) := by
  induction hreplies with
  | nil => rfl
  | @cons batch rankings rest more hpointwise hrest ih =>
    have hitems (given : List Ranking) : (given.map batch.item).filter (·.score = wanted) =
        (given.filter (·.score = wanted)).map batch.item := by
      rw [List.filter_map]
      rfl
    rw [List.map_cons, collect_cons_cons, collect_cons_cons, List.filter_append,
      List.filter_append, ih, hitems, hitems, hpointwise.filter_eq]

/-- Batches that are scored text by text give the same best items as all texts at once. -/
theorem AllPointwise.bestFirst_collect (hsize : 0 < size)
    (hreplies : AllPointwise score (split size texts) replies) :
    bestFirst (collect (split size texts) replies) = bestFirst (scoreTexts score texts) := by
  have hcollected := isBestFirst_bestFirst (collect (split size texts) replies)
  have hall := isBestFirst_bestFirst (scoreTexts score texts)
  apply IsBestFirst.eq_of_filter_eq hcollected.descending hall.descending
  intro wanted
  rw [hcollected.stable, hall.stable, hreplies.filter_collect,
    collect_split_rankTexts hsize]

end Batch

/-- The texts that items refer to, with their scores. -/
def scoresByText (texts : List String) (items : List Item) : List (Option String × Score) :=
  items.map fun item => (texts[item.index]?, item.score)

/-- The texts of all items are all texts. -/
theorem scoresByText_scoreTexts (score : String → Score) (texts : List String) :
    scoresByText texts (scoreTexts score texts) = texts.map fun text => (some text, score text) := by
  apply List.ext_getElem?
  intro place
  rw [scoresByText, scoreTexts, List.getElem?_map, List.getElem?_mapIdx, List.getElem?_map]
  cases htext : texts[place]? with
  | none => rfl
  | some text => simp [htext]

/-- If no two texts have the same score, their order does not matter to the best ones. -/
theorem scoresByText_bestFirst_of_perm {shuffled : List String} (hperm : shuffled.Perm texts)
    (hdistinct : (texts.map score).Nodup) :
    scoresByText shuffled (bestFirst (scoreTexts score shuffled)) =
      scoresByText texts (bestFirst (scoreTexts score texts)) := by
  have hentries (given : List String) :
      (scoresByText given (bestFirst (scoreTexts score given))).Perm
        (given.map fun text => (some text, score text)) := by
    rw [← scoresByText_scoreTexts]
    exact (bestFirst_perm _).map _
  have hordered (given : List String) :
      (scoresByText given (bestFirst (scoreTexts score given))).Pairwise
        fun a b => b.2 ≤ a.2 := by
    rw [scoresByText, List.pairwise_map]
    exact (isBestFirst_bestFirst _).descending
  apply List.Perm.eq_of_pairwise _ (hordered shuffled) (hordered texts)
  · exact (hentries shuffled).trans ((hperm.map _).trans (hentries texts).symm)
  · -- Entries that are neither better than the other have one score, so they are of one text.
    intro a b ha hb hab hba
    obtain ⟨text, htext, rfl⟩ := List.mem_map.1 ((hentries shuffled).subset ha)
    obtain ⟨other, hother, rfl⟩ := List.mem_map.1 ((hentries texts).subset hb)
    have hscore : score text = score other := Score.le_antisymm hba hab
    have htexts : text = other :=
      List.inj_on_of_nodup_map hdistinct (hperm.subset htext) hother hscore
    rw [htexts]

section Service

variable {σ : Type}

/-- Every request to score some of the texts for the query succeeds, and is answered with the
rankings of those texts scored one by one.  Other requests are left open: indices of rankings are
bounded, so that no service could answer requests of any length. -/
def Channel.ScoresPointwise (channel : Channel σ) (score : String → String → Score)
    (query : String) (texts : List String) : Prop :=
  ∀ (request : Request) (payload : Payload) (state : σ), request.payload = some payload →
    payload.query = query → payload.passages.Subperm texts →
      ∃ reply rankings, (channel.exchange request state).1 = .ok reply ∧
        200 ≤ reply.status ∧ reply.status < 300 ∧ parseRankings reply.body = .ok rankings ∧
        Pointwise (score query) payload.passages rankings

theorem Channel.ScoresPointwise.of_perm {channel : Channel σ} {score : String → String → Score}
    {query : String} (hchannel : channel.ScoresPointwise score query texts)
    {shuffled : List String} (hperm : shuffled.Perm texts) :
    channel.ScoresPointwise score query shuffled := by
  intro request payload state hpayload hquery hpassages
  exact hchannel request payload state hpayload hquery (hpassages.trans hperm.subperm)

namespace Reranker

/-- The client with batches of another size. -/
def withBatchSize (size : Nat) (client : Reranker) : Reranker :=
  { client with service := { client.service with maxBatchSize := size } }

@[simp]
theorem addressing_withBatchSize [Url.Idna] (size : Nat) (client : Reranker) :
    (client.withBatchSize size).addressing = client.addressing := rfl

variable {channel : Channel σ} {score : String → String → Score} {query : String}

theorem reading_of_scoresPointwise (hchannel : channel.ScoresPointwise score query texts)
    (client : Reranker) (url : Url) (headers : Headers) {batch : Batch}
    (hbatch : batch.texts.Subperm texts) (state : σ) :
    ∃ rankings,
      batch.reading (channel.exchange (client.post url headers query batch) state).1 =
        .ok rankings ∧
      Pointwise (score query) batch.texts rankings := by
  obtain ⟨reply, rankings, hreply, hlow, hhigh, hparse, hpointwise⟩ :=
    hchannel (client.post url headers query batch) (client.payload query batch) state rfl rfl hbatch
  have hdecode : decode (channel.exchange (client.post url headers query batch) state).1 =
      .ok rankings := decode_eq_ok_iff.2 ⟨reply, hreply, hlow, hhigh, hparse⟩
  exact ⟨rankings, Batch.reading_eq_ok_iff.2 ⟨hdecode, hpointwise.fits⟩, hpointwise⟩

/-- All batches of the texts are scored, and scored text by text. -/
theorem scoreBatches_of_scoresPointwise (hchannel : channel.ScoresPointwise score query texts)
    (client : Reranker) (url : Url) (headers : Headers) (topN : Nat) {batches : List Batch}
    (hbatches : ∀ batch ∈ batches, batch.texts.Subperm texts) (state : σ) :
    ∃ replies,
      ((scoreBatches channel client url headers query topN batches).run state).result =
        .ok (Batch.collect batches (replies.map (List.take topN))) ∧
      Batch.AllPointwise (score query) batches replies := by
  induction batches generalizing state with
  | nil => exact ⟨[], rfl, .nil⟩
  | cons batch rest ih =>
    obtain ⟨hbatch, hrest⟩ := List.forall_mem_cons.1 hbatches
    obtain ⟨rankings, hreading, hpointwise⟩ :=
      reading_of_scoresPointwise hchannel client url headers hbatch state
    obtain ⟨replies, hresult, hreplies⟩ :=
      ih hrest (channel.exchange (client.post url headers query batch) state).2
    refine ⟨rankings :: replies, ?_, .cons hpointwise hreplies⟩
    rw [run_scoreBatches_cons, hreading]
    dsimp only
    rw [hresult, List.map_cons, Batch.collect_cons_cons]
    rfl

/-- The result of a call is the front of all texts scored one by one. -/
theorem result_rank_of_scoresPointwise [Url.Idna]
    (hchannel : channel.ScoresPointwise score query texts) (client : Reranker)
    (hsize : 0 < client.service.maxBatchSize) (topN : Nat) (state : σ) :
    ((rank channel client query texts topN).run state).result =
      if Text.isBlank query then .error .emptyQuery
      else if texts = [] then .ok []
      else client.addressing.map fun _ =>
        (bestFirst (scoreTexts (score query) texts)).take topN := by
  cases hquery : Text.isBlank query with
  | true => rw [run_rank_of_blank channel client topN state hquery, if_pos rfl]
  | false =>
    rw [if_neg Bool.false_ne_true]
    by_cases htexts : texts = []
    · rw [if_pos htexts, htexts, run_rank_nil channel client topN state hquery]
    · rw [if_neg htexts]
      cases haddressing : client.addressing with
      | error failure =>
        rw [run_rank_of_unaddressed channel client topN state hquery htexts haddressing]
        rfl
      | ok addressing =>
        obtain ⟨url, headers⟩ := addressing
        have hbatches : ∀ batch ∈ Batch.split client.service.maxBatchSize texts,
            batch.texts.Subperm texts := by
          rw [Batch.split_eq_map_range hsize]
          intro batch hbatch
          obtain ⟨k, -, rfl⟩ := List.mem_map.1 hbatch
          exact ((List.take_sublist _ _).trans (List.drop_sublist _ _)).subperm
        obtain ⟨replies, hresult, hreplies⟩ :=
          scoreBatches_of_scoresPointwise hchannel client url headers topN hbatches state
        rw [result_rank_of_scored hquery htexts haddressing hresult,
          Batch.merge_collect_take hsize hreplies.bestRanked, hreplies.bestFirst_collect hsize]
        rfl

/-- The result does not depend on the size of the batches, nor, if no two texts have the same score,
on the order of the texts. -/
theorem rank_pointwise [Url.Idna] (hchannel : channel.ScoresPointwise score query texts)
    (client : Reranker) (topN : Nat) {size other : Nat} (hsize : 0 < size) (hother : 0 < other)
    (state next : σ) :
    ((rank channel (client.withBatchSize size) query texts topN).run state).result =
        ((rank channel (client.withBatchSize other) query texts topN).run next).result ∧
      ((texts.map (score query)).Nodup → ∀ shuffled : List String, shuffled.Perm texts →
        ((rank channel (client.withBatchSize other) query shuffled topN).run next).result.map
            (scoresByText shuffled) =
          ((rank channel (client.withBatchSize size) query texts topN).run state).result.map
            (scoresByText texts)) := by
  rw [result_rank_of_scoresPointwise hchannel (client.withBatchSize size) hsize,
    result_rank_of_scoresPointwise hchannel (client.withBatchSize other) hother]
  refine ⟨rfl, ?_⟩
  intro hdistinct shuffled hperm
  have hempty : shuffled = [] ↔ texts = [] := by
    rw [← List.length_eq_zero_iff, ← List.length_eq_zero_iff, hperm.length_eq]
  rw [result_rank_of_scoresPointwise (hchannel.of_perm hperm) (client.withBatchSize other) hother]
  simp only [addressing_withBatchSize, hempty]
  split
  · rfl
  · split
    · rfl
    · cases client.addressing with
      | error failure => rfl
      | ok addressing =>
        have hbest := scoresByText_bestFirst_of_perm hperm hdistinct
        simp only [Except.map, scoresByText, List.map_take] at hbest ⊢
        rw [hbest]

end Reranker

end Service

/-- The scores of two letters, of which the second one is the better. -/
def letterScore (_ text : String) : Score :=
  if text = "b" then ⟨0x40000000⟩ else ⟨0x3f800000⟩

/-- The rankings of some of the two letters. -/
def letterRankings (passages : List String) : List Ranking :=
  if passages = ["a"] then [⟨0, ⟨0x3f800000⟩⟩]
  else if passages = ["b"] then [⟨0, ⟨0x40000000⟩⟩]
  else if passages = ["a", "b"] then [⟨1, ⟨0x40000000⟩⟩, ⟨0, ⟨0x3f800000⟩⟩]
  else if passages = ["b", "a"] then [⟨0, ⟨0x40000000⟩⟩, ⟨1, ⟨0x3f800000⟩⟩]
  else []

/-- The same as the service writes them. -/
def letterReply (passages : List String) : Response :=
  if passages = ["a"] then jsonReply "\x7b\"rankings\": [[0, 1]]\x7d"
  else if passages = ["b"] then jsonReply "\x7b\"rankings\": [[0, 2]]\x7d"
  else if passages = ["a", "b"] then jsonReply "\x7b\"rankings\": [[1, 2], [0, 1]]\x7d"
  else if passages = ["b", "a"] then jsonReply "\x7b\"rankings\": [[0, 2], [1, 1]]\x7d"
  else jsonReply "\x7b\"rankings\": []\x7d"

/-- A service that scores the two letters. -/
def letterService : Channel Unit where
  exchange request _ := (.ok (letterReply ((request.payload.map Payload.passages).getD [])), ())

/-- There are five ways to choose some of two texts. -/
theorem subperm_pair {first second : String} {chosen : List String}
    (hchosen : chosen.Subperm [first, second]) :
    chosen ∈ [[], [first], [second], [first, second], [second, first]] := by
  obtain ⟨kept, hperm, hsublist⟩ := hchosen
  have hkept : kept ∈ [[], [second], [first], [first, second]] := by
    simpa using List.mem_sublists'.2 hsublist
  simp only [List.mem_cons, List.not_mem_nil, or_false] at hkept ⊢
  rcases hkept with rfl | rfl | rfl | rfl
  · simp [List.nil_perm.1 hperm]
  · simp [List.singleton_perm.1 hperm]
  · simp [List.singleton_perm.1 hperm]
  · simp [List.perm_pair.1 hperm.symm]

theorem scoresPointwise_letterService :
    letterService.ScoresPointwise letterScore "q" ["a", "b"] := by
  intro request payload state hpayload _ hpassages
  have hexchange : (letterService.exchange request state).1 =
      .ok (letterReply payload.passages) := by
    simp [letterService, hpayload]
  refine ⟨letterReply payload.passages, letterRankings payload.passages, hexchange, ?_⟩
  have hchosen := subperm_pair hpassages
  simp only [List.mem_cons, List.not_mem_nil, or_false] at hchosen
  rcases hchosen with h | h | h | h | h
  all_goals
    rw [h]
    exact ⟨by decide, by decide, by decide +kernel, by decide, by decide⟩

namespace Reranker

/-- Two texts in one batch, in two, and in two the other way round. -/
theorem rank_pointwise_letterService :
    let inPairs := (rank letterService (hostedInPairs.withBatchSize 2) "q" ["a", "b"] 5).run ()
    let oneByOne := (rank letterService (hostedInPairs.withBatchSize 1) "q" ["a", "b"] 5).run ()
    let shuffled := (rank letterService (hostedInPairs.withBatchSize 1) "q" ["b", "a"] 5).run ()
    letterService.ScoresPointwise letterScore "q" ["a", "b"] ∧
      (["a", "b"].map (letterScore "q")).Nodup ∧ ["b", "a"].Perm ["a", "b"] ∧
      inPairs.result = .ok [⟨1, ⟨0x40000000⟩⟩, ⟨0, ⟨0x3f800000⟩⟩] ∧
      inPairs.result = oneByOne.result ∧
      shuffled.result.map (scoresByText ["b", "a"]) =
        inPairs.result.map (scoresByText ["a", "b"]) := by
  have hdistinct : (["a", "b"].map (letterScore "q")).Nodup := by decide
  have hperm : ["b", "a"].Perm ["a", "b"] := List.Perm.swap "a" "b" []
  have hboth := rank_pointwise scoresPointwise_letterService hostedInPairs 5 (by decide : 0 < 2)
    (by decide : 0 < 1) () ()
  have hresult := result_rank_of_scoresPointwise scoresPointwise_letterService
    (hostedInPairs.withBatchSize 2) (by decide) 5 ()
  have hbest : bestFirst (scoreTexts (letterScore "q") ["a", "b"]) =
      [⟨1, ⟨0x40000000⟩⟩, ⟨0, ⟨0x3f800000⟩⟩] := by
    cbv
  rw [hbest] at hresult
  exact ⟨scoresPointwise_letterService, hdistinct, hperm, hresult.trans (by decide +kernel),
    hboth.1, hboth.2 hdistinct ["b", "a"] hperm⟩

end Reranker

end Rerank
