import Rerank.Proofs.Ranking.EarlyCut
import Rerank.Proofs.Ranking.Provider

/-!
# The order of results

The rankings of all replies have an order of their own: by the batch that they are given for and,
in one reply, by their places in it.  The items of several batches descend by score, with equal
ones in that order, and nothing that was left out belongs before an item that was kept.  The items
of a single batch are the front of its reply as the service gave it, sorted or not.
-/

namespace Rerank

/-- With batches of `size`, the item is the ranking at a place of the reply to a batch. -/
def GivenAt (size : Nat) (replies : List (List Ranking)) (item : Item) (number place : Nat) :
    Prop :=
  ∃ rankings ranking, replies[number]? = some rankings ∧ rankings[place]? = some ranking ∧
    item = { index := number * size + ranking.index, score := ranking.score }

/-- The first item is given for an earlier batch than the second, or earlier in the same reply. -/
def GivenBefore (size : Nat) (replies : List (List Ranking)) (a b : Item) : Prop :=
  ∃ number place number' place', GivenAt size replies a number place ∧
    GivenAt size replies b number' place' ∧
    (number < number' ∨ number = number' ∧ place < place')

/-- The first item is better than the second, or it is as good and given before it. -/
def Precedes (size : Nat) (replies : List (List Ranking)) (a b : Item) : Prop :=
  b.score < a.score ∨ a.score = b.score ∧ GivenBefore size replies a b

section Given

variable {size : Nat} {replies : List (List Ranking)}

/-- In replies that are cut, the same is given as before at the places that are left. -/
theorem givenAt_take_iff {n : Nat} {item : Item} {number place : Nat} :
    GivenAt size (replies.map (List.take n)) item number place ↔
      place < n ∧ GivenAt size replies item number place := by
  constructor
  · rintro ⟨cut, ranking, hcut, hranking, rfl⟩
    rw [List.getElem?_map] at hcut
    obtain ⟨rankings, hrankings, rfl⟩ := Option.map_eq_some_iff.1 hcut
    rw [List.getElem?_take] at hranking
    split at hranking
    · next hplace => exact ⟨hplace, rankings, ranking, hrankings, hranking, rfl⟩
    · contradiction
  · rintro ⟨hplace, rankings, ranking, hrankings, hranking, rfl⟩
    refine ⟨rankings.take n, ranking, ?_, ?_, rfl⟩
    · rw [List.getElem?_map, hrankings, Option.map_some]
    · rw [List.getElem?_take_of_lt hplace, hranking]

theorem GivenBefore.of_take {n : Nat} {a b : Item}
    (hbefore : GivenBefore size (replies.map (List.take n)) a b) :
    GivenBefore size replies a b := by
  obtain ⟨number, place, number', place', ha, hb, hless⟩ := hbefore
  exact ⟨number, place, number', place', (givenAt_take_iff.1 ha).2, (givenAt_take_iff.1 hb).2,
    hless⟩

theorem mem_allItems_iff {item : Item} :
    item ∈ allItems size replies ↔ ∃ number place, GivenAt size replies item number place := by
  rw [allItems, List.mem_flatten]
  constructor
  · rintro ⟨items, hitems, hmem⟩
    obtain ⟨number, hnumber, rfl⟩ := List.mem_mapIdx.1 hitems
    obtain ⟨place, hplace, hitem⟩ := List.getElem_of_mem hmem
    rw [List.length_map] at hplace
    rw [List.getElem_map] at hitem
    exact ⟨number, place, _, _, List.getElem?_eq_getElem hnumber, List.getElem?_eq_getElem hplace,
      hitem.symm⟩
  · rintro ⟨number, place, rankings, ranking, hrankings, hranking, rfl⟩
    obtain ⟨hnumber, rfl⟩ := List.getElem?_eq_some_iff.1 hrankings
    refine ⟨_, List.mem_mapIdx.2 ⟨number, hnumber, rfl⟩, ?_⟩
    exact List.mem_map_of_mem (List.mem_of_getElem? hranking)

/-- All items together stand in the order in which they are given. -/
theorem pairwise_allItems (size : Nat) (replies : List (List Ranking)) :
    (allItems size replies).Pairwise (GivenBefore size replies) := by
  have hgiven {number place : Nat} (hnumber : number < replies.length)
      (hplace : place < replies[number].length) :
      GivenAt size replies
        { index := number * size + replies[number][place].index,
          score := replies[number][place].score } number place :=
    ⟨_, _, List.getElem?_eq_getElem hnumber, List.getElem?_eq_getElem hplace, rfl⟩
  rw [allItems, List.pairwise_flatten]
  constructor
  · intro items hitems
    obtain ⟨number, hnumber, rfl⟩ := List.mem_mapIdx.1 hitems
    rw [List.pairwise_map, List.pairwise_iff_getElem]
    intro place place' hplace hplace' hless
    exact ⟨number, place, number, place', hgiven hnumber hplace, hgiven hnumber hplace',
      Or.inr ⟨rfl, hless⟩⟩
  · rw [List.pairwise_iff_getElem]
    intro number number' hnumber hnumber' hless a ha b hb
    rw [List.length_mapIdx] at hnumber hnumber'
    rw [List.getElem_mapIdx] at ha hb
    obtain ⟨ranking, hranking, rfl⟩ := List.mem_map.1 ha
    obtain ⟨ranking', hranking', rfl⟩ := List.mem_map.1 hb
    obtain ⟨place, hplace, rfl⟩ := List.getElem_of_mem hranking
    obtain ⟨place', hplace', rfl⟩ := List.getElem_of_mem hranking'
    exact ⟨number, place, number', place', hgiven hnumber hplace, hgiven hnumber' hplace',
      Or.inl hless⟩

/-- The index of an item tells the batch that it is given for, and the index in that batch. -/
theorem GivenAt.exists_of_fitting (hsize : 0 < size) {texts : List String}
    (hfitting : Batch.Fitting (Batch.split size texts) replies) {item : Item} {number place : Nat}
    (hgiven : GivenAt size replies item number place) :
    item.index / size = number ∧ ∃ rankings, replies[number]? = some rankings ∧
      (rankings.map Ranking.index).Nodup ∧
      (rankings.map Ranking.index)[place]? = some (item.index % size) := by
  obtain ⟨rankings, ranking, hrankings, hranking, rfl⟩ := hgiven
  have hnumber : number < (Batch.split size texts).length := by
    rw [hfitting.length_eq]
    exact (List.getElem?_eq_some_iff.1 hrankings).1
  have hbatch := List.getElem?_eq_getElem hnumber
  have hfits : Fits (Batch.nth size texts number).texts.length rankings := by
    rw [← Batch.eq_nth_of_getElem? hsize hbatch]
    exact hfitting.getElem? hbatch hrankings
  have hindex : ranking.index < size := by
    have hplace := hfits.inRange ranking (List.mem_of_getElem? hranking)
    rw [Batch.length_texts_nth] at hplace
    exact Nat.lt_of_lt_of_le hplace (Nat.min_le_left _ _)
  refine ⟨Batch.div_of_place hindex, rankings, hrankings, hfits.distinct, ?_⟩
  rw [List.getElem?_map, hranking, Option.map_some, Nat.mul_add_mod_of_lt hindex]

/-- No item is given twice. -/
theorem GivenAt.unique (hsize : 0 < size) {texts : List String}
    (hfitting : Batch.Fitting (Batch.split size texts) replies) {item : Item}
    {number place number' place' : Nat} (hgiven : GivenAt size replies item number place)
    (hgiven' : GivenAt size replies item number' place') :
    number = number' ∧ place = place' := by
  obtain ⟨hnumber, rankings, hrankings, hdistinct, hindex⟩ :=
    hgiven.exists_of_fitting hsize hfitting
  obtain ⟨hnumber', rankings', hrankings', -, hindex'⟩ := hgiven'.exists_of_fitting hsize hfitting
  have hsame : number = number' := hnumber.symm.trans hnumber'
  subst hsame
  obtain rfl : rankings = rankings' := Option.some.inj (hrankings.symm.trans hrankings')
  have hplace : place < (rankings.map Ranking.index).length :=
    (List.getElem?_eq_some_iff.1 hindex).1
  exact ⟨rfl, (List.getElem?_inj hplace hdistinct).1 (hindex.trans hindex'.symm)⟩

end Given

/-- How the items of a call are selected from the replies that it got, and how they are ordered. -/
structure Arranged (size topN : Nat) (texts : List String) (trace : List Observation)
    (items : List Item) : Prop where
  /-- The rankings are those in the replies. -/
  parsed : (repliesOf trace).map (fun reply => parseRankings reply.body) =
    (rankingsOf trace).map .ok
  /-- Each item is given among the first rankings of a reply, at one place only. -/
  kept : ∀ item ∈ items, ∃ number place, place < topN ∧
    GivenAt size (rankingsOf trace) item number place
  unique : ∀ item number place number' place',
    GivenAt size (rankingsOf trace) item number place →
      GivenAt size (rankingsOf trace) item number' place' → number = number' ∧ place = place'
  descending_of_several : size < texts.length → Descending items
  ordered_of_several : size < texts.length → items.Pairwise (Precedes size (rankingsOf trace))
  /-- What is left out of the first rankings of a reply belongs after all that is kept. -/
  left_out_of_several : size < texts.length → ∀ item number place, place < topN →
    GivenAt size (rankingsOf trace) item number place → item ∉ items →
      items.length = topN ∧ ∀ other ∈ items, Precedes size (rankingsOf trace) other item
  /-- A single reply is cut and otherwise left as it is. -/
  eq_take_of_single : texts ≠ [] → texts.length ≤ size → ∃ rankings,
    rankingsOf trace = [rankings] ∧
      items = (rankings.take topN).map fun ranking =>
        { index := ranking.index, score := ranking.score }
  eq_nil : texts = [] → rankingsOf trace = [] ∧ items = []

section Merge

variable {size : Nat} {replies : List (List Ranking)}

/-- Sorting items puts them in the order in which they precede one another. -/
theorem pairwise_precedes_bestFirst (size topN : Nat) (replies : List (List Ranking)) :
    (bestFirst (allItems size (replies.map (List.take topN)))).Pairwise
      (Precedes size replies) := by
  have hgiven : (allItems size (replies.map (List.take topN))).Pairwise
      (GivenBefore size replies) :=
    (pairwise_allItems size _).imp fun hbefore => hbefore.of_take
  exact (isBestFirst_bestFirst _).pairwise hgiven

/-- What a cut leaves out of a list in order comes after all that it keeps. -/
theorem forall_of_not_mem_take {α : Type} {R : α → α → Prop} {l : List α} {n : Nat}
    (hl : l.Pairwise R) {a : α} (ha : a ∈ l) (hnot : a ∉ l.take n) :
    (l.take n).length = n ∧ ∀ b ∈ l.take n, R b a := by
  have hdropped : a ∈ l.drop n := by
    rw [← List.take_append_drop n l, List.mem_append] at ha
    exact ha.resolve_left hnot
  have hlonger : n < l.length := by
    have hpositive := List.length_pos_of_mem hdropped
    rw [List.length_drop] at hpositive
    omega
  rw [← List.take_append_drop n l] at hl
  obtain ⟨-, -, hacross⟩ := List.pairwise_append.1 hl
  exact ⟨List.length_take_of_le (Nat.le_of_lt hlonger), fun b hb => hacross b hb a hdropped⟩

/-- The items of a single reply. -/
theorem allItems_singleton (size : Nat) (rankings : List Ranking) :
    allItems size [rankings] =
      rankings.map fun ranking => { index := ranking.index, score := ranking.score } := by
  simp [allItems]

/-- Passages that fit into one batch are given one reply. -/
theorem Batch.Fitting.exists_of_single (hsize : 0 < size) {texts : List String}
    (hfitting : Fitting (split size texts) replies) (htexts : texts ≠ [])
    (hfew : texts.length ≤ size) : ∃ rankings, replies = [rankings] := by
  rw [← List.length_eq_one_iff, ← hfitting.length_eq]
  apply Nat.le_antisymm (length_split_le_one hsize hfew)
  rw [length_split hsize, Nat.succ_le_iff, lt_ceilDiv_iff hsize, Nat.zero_mul]
  exact List.length_pos_iff.2 htexts

end Merge

namespace Reranker

section Ranked

variable {client : Reranker} {query : String} {texts : List String} {topN : Nat}
  {trace : List Observation} {items : List Item}

/-- The items are cut from all that is given at the first places of the replies. -/
theorem Ranked.eq_merge_allItems (hranked : Ranked client query texts topN trace items)
    (hsize : 0 < client.service.maxBatchSize) :
    items = merge texts.length client.service.maxBatchSize topN
      (allItems client.service.maxBatchSize ((rankingsOf trace).map (List.take topN))) := by
  rw [hranked.items_eq, Batch.collect_split hsize (hranked.fitting.take topN).length_eq]

theorem Ranked.arranged (hranked : Ranked client query texts topN trace items)
    (hsize : 0 < client.service.maxBatchSize) :
    Arranged client.service.maxBatchSize topN texts trace items := by
  have hitems := hranked.eq_merge_allItems hsize
  have hsorted (hmany : client.service.maxBatchSize < texts.length) :
      items = (bestFirst (allItems client.service.maxBatchSize
        ((rankingsOf trace).map (List.take topN)))).take topN := by
    rw [hitems, merge, if_pos hmany]
  have hprecedes := pairwise_precedes_bestFirst client.service.maxBatchSize topN (rankingsOf trace)
  constructor
  case parsed => exact hranked.parsed
  case kept =>
    intro item hitem
    rw [hitems] at hitem
    have hgiven := (merge_subperm _ _ _ _).subset hitem
    obtain ⟨number, place, hplace⟩ := mem_allItems_iff.1 hgiven
    exact ⟨number, place, givenAt_take_iff.1 hplace⟩
  case unique =>
    intro item number place number' place' hgiven hgiven'
    exact hgiven.unique hsize hranked.fitting hgiven'
  case descending_of_several =>
    intro hmany
    rw [hsorted hmany]
    exact (isBestFirst_bestFirst _).descending.sublist (List.take_sublist topN _)
  case ordered_of_several =>
    intro hmany
    rw [hsorted hmany]
    exact hprecedes.sublist (List.take_sublist topN _)
  case left_out_of_several =>
    intro hmany item number place hplace hgiven hnot
    rw [hsorted hmany] at hnot ⊢
    apply forall_of_not_mem_take hprecedes _ hnot
    apply (bestFirst_perm _).mem_iff.2
    exact mem_allItems_iff.2 ⟨number, place, givenAt_take_iff.2 ⟨hplace, hgiven⟩⟩
  case eq_take_of_single =>
    intro htexts hfew
    obtain ⟨rankings, hrankings⟩ := hranked.fitting.exists_of_single hsize htexts hfew
    refine ⟨rankings, hrankings, ?_⟩
    rw [hitems, merge, if_neg (Nat.not_lt.2 hfew), hrankings, List.map_singleton,
      allItems_singleton, ← List.map_take, List.take_take, Nat.min_self]
  case eq_nil =>
    rintro rfl
    have hnone : rankingsOf trace = [] := by
      apply List.length_eq_zero_iff.1
      rw [← hranked.fitting.length_eq]
      simp [Batch.split]
    refine ⟨hnone, ?_⟩
    rw [hitems, hnone]
    simp [merge, allItems]

end Ranked

variable {σ : Type}

/-- Results are arranged, for ranking texts, providing an answer and ranking passages alike: the
items of several batches descend, equal ones stand in the order in which they were given, and
whatever was left out of the first rankings of a reply comes after all of them; the items of a
single batch are the front of its reply. -/
theorem arranged_of_calls [Url.Idna] (channel : Channel σ) {client : Reranker}
    (hclient : client.Connected) (query : String) (state : σ) :
    (∀ texts topN items,
      let run := (rank channel client query texts topN).run state
      run.result = .ok items →
        Arranged client.service.maxBatchSize topN texts run.trace items) ∧
    (∀ documents (topN : Option Nat) answer,
      let run := (provide channel client query documents topN).run state
      run.result = .ok answer →
        Arranged client.service.maxBatchSize (topN.getD client.service.topN) documents run.trace
          answer.items) ∧
    ∀ (α : Type) [Passage α] (passages : List α) scored,
      let run := (rerank channel client query passages).run state
      run.result = .ok scored →
        Arranged client.service.maxBatchSize client.service.topN (passages.map Passage.content)
          run.trace (scored.map Scored.item) := by
  have hsize := hclient.maxBatchSize_pos
  refine ⟨fun texts topN items hrank => (ranked_of_rank hrank).arranged hsize, ?_, ?_⟩
  · intro documents topN answer
    dsimp only
    rw [run_provide, Run.trace_map, Run.result_map]
    intro hanswer
    obtain ⟨items, hitems, rfl⟩ := except_map_eq_ok_iff.1 hanswer
    exact (ranked_of_rank hitems).arranged hsize
  · intro α _ passages scored
    dsimp only
    rw [trace_rerank]
    intro hscored
    exact (ranked_of_rank (result_rank_of_rerank hsize hscored)).arranged hsize

/-- Replies to two pairs of passages with three equal scores. -/
def tiedReplies : List Response :=
  [ jsonReply "\x7b\"rankings\": [[1, 1], [0, 1]]\x7d",
    jsonReply "\x7b\"rankings\": [[0, 1], [1, 2]]\x7d" ]

/-- Of three equally good passages the one is kept that was ranked first. -/
theorem arranged_of_calls_tiedReplies :
    let run := (rank Channel.scripted hostedInPairs "q" ["a", "b", "c", "d"] 2).run tiedReplies
    hostedInPairs.Connected ∧ run.result = .ok [⟨3, ⟨0x40000000⟩⟩, ⟨1, ⟨0x3f800000⟩⟩] ∧
      Arranged 2 2 ["a", "b", "c", "d"] run.trace
        [⟨3, ⟨0x40000000⟩⟩, ⟨1, ⟨0x3f800000⟩⟩] := by
  intro run
  have hscored : ((scoreBatches Channel.scripted hostedInPairs hostedInPairs.service.baseUrl
      ⟨some "Bearer key"⟩ "q" 2 (Batch.split 2 ["a", "b", "c", "d"])).run tiedReplies).result =
        .ok [⟨1, ⟨0x3f800000⟩⟩, ⟨0, ⟨0x3f800000⟩⟩, ⟨2, ⟨0x3f800000⟩⟩, ⟨3, ⟨0x40000000⟩⟩] := by
    decide +kernel
  have hmerge : merge 4 2 2
      [⟨1, ⟨0x3f800000⟩⟩, ⟨0, ⟨0x3f800000⟩⟩, ⟨2, ⟨0x3f800000⟩⟩, ⟨3, ⟨0x40000000⟩⟩] =
        [⟨3, ⟨0x40000000⟩⟩, ⟨1, ⟨0x3f800000⟩⟩] := by
    cbv
  have hresult : run.result = .ok [⟨3, ⟨0x40000000⟩⟩, ⟨1, ⟨0x3f800000⟩⟩] := by
    rw [← hmerge]
    exact result_rank_of_scored (by decide +kernel) (by simp) addressing_hostedInPairs hscored
  exact ⟨connected_hostedInPairs, hresult,
    (arranged_of_calls Channel.scripted connected_hostedInPairs "q" tiedReplies).1 _ _ _ hresult⟩

end Reranker

end Rerank
