import Rerank.Proofs.Ranking.Basic

/-!
# Cutting early

A call cuts the rankings of each batch before it merges them, and does not sort those of a single
batch.  If the service gives the best rankings of each batch first, the result is still the front of
all rankings that it gave, sorted once and cut once.
-/

namespace Rerank

/-- The rankings have the best ones first. -/
def BestRanked (rankings : List Ranking) : Prop :=
  rankings.Pairwise fun a b => b.score ≤ a.score

instance (rankings : List Ranking) : Decidable (BestRanked rankings) :=
  inferInstanceAs (Decidable (rankings.Pairwise fun a b => b.score ≤ a.score))

/-- All rankings in the replies to batches of `size`, with the places of their passages among all
passages. -/
def allItems (size : Nat) (replies : List (List Ranking)) : List Item :=
  (replies.mapIdx fun number rankings => rankings.map fun ranking =>
    { index := number * size + ranking.index, score := ranking.score }).flatten

namespace Batch

variable {size topN : Nat} {texts : List String} {batches : List Batch}
  {replies : List (List Ranking)}

/-- Collecting what was read from the batches of some passages drops nothing. -/
theorem collect_split (hsize : 0 < size)
    (hlength : (split size texts).length = replies.length) :
    collect (split size texts) replies = allItems size replies := by
  rw [collect, allItems]
  congr 1
  refine List.ext_getElem? fun k => ?_
  rw [List.getElem?_zipWith, List.getElem?_mapIdx]
  cases hrankings : replies[k]? with
  | none => cases (split size texts)[k]? <;> rfl
  | some rankings =>
    have hk : k < (split size texts).length :=
      hlength ▸ (List.getElem?_eq_some_iff.1 hrankings).1
    have hbatch : (split size texts)[k]? = some (split size texts)[k] :=
      List.getElem?_eq_getElem hk
    rw [hbatch, eq_nth_of_getElem? hsize hbatch]
    rfl

theorem descending_of_mem_zipWith (hreplies : ∀ rankings ∈ replies, BestRanked rankings)
    {items : List Item}
    (hitems : items ∈ List.zipWith (fun batch rankings => rankings.map batch.item) batches replies) :
    Descending items := by
  obtain ⟨k, hk⟩ := List.mem_iff_getElem?.1 hitems
  rw [List.getElem?_zipWith_eq_some] at hk
  obtain ⟨batch, rankings, -, hrankings, rfl⟩ := hk
  exact (hreplies rankings (List.mem_of_getElem? hrankings)).map batch.item fun _ _ hle => hle

/-- One batch is enough for passages that fit into it. -/
theorem length_split_le_one (hsize : 0 < size) (hfew : texts.length ≤ size) :
    (split size texts).length ≤ 1 := by
  rw [length_split hsize, ceilDiv_le_iff_le_mul hsize, Nat.mul_one]
  exact hfew

/-- Cutting before and after the merge is cutting after a sort of everything. -/
theorem merge_collect_take (hsize : 0 < size)
    (hreplies : ∀ rankings ∈ replies, BestRanked rankings) :
    merge texts.length size topN
        (collect (split size texts) (replies.map (List.take topN))) =
      (bestFirst (collect (split size texts) replies)).take topN := by
  generalize hlists : List.zipWith (fun batch rankings => rankings.map batch.item)
    (split size texts) replies = lists
  have hdescending : ∀ items ∈ lists, Descending items := fun items hitems =>
    descending_of_mem_zipWith hreplies (hlists ▸ hitems)
  have hall : collect (split size texts) replies = lists.flatten := by rw [collect, hlists]
  have hcut : collect (split size texts) (replies.map (List.take topN)) =
      (lists.map (List.take topN)).flatten := by
    rw [collect, List.zipWith_map_right, ← hlists, List.map_zipWith]
    simp only [List.map_take]
  rw [hall, hcut, merge]
  split
  · exact take_bestFirst_flatten topN hdescending
  · next hfew =>
    have hone : lists.length ≤ 1 := by
      rw [← hlists, List.length_zipWith]
      exact Nat.le_trans (Nat.min_le_left _ _) (length_split_le_one hsize (Nat.le_of_not_lt hfew))
    exact take_flatten_of_length_le_one topN hdescending hone

end Batch

namespace Reranker

variable {σ : Type}

/-- Cutting early loses nothing: if each reply has its best rankings first, the items of a call that
succeeds are the front of all rankings in the replies, with the best ones first and, among equal
ones, those of earlier batches and earlier places of a reply. -/
theorem rank_eq_take_of_bestRanked [Url.Idna] (channel : Channel σ) (client : Reranker)
    (hsize : 0 < client.service.maxBatchSize) (query : String) (texts : List String) (topN : Nat)
    (state : σ) {items : List Item}
    (hrank : ((rank channel client query texts topN).run state).result = .ok items)
    (hreplies : ∀ rankings ∈ rankingsOf ((rank channel client query texts topN).run state).trace,
      BestRanked rankings) :
    ∃ sorted,
      IsBestFirst (allItems client.service.maxBatchSize
        (rankingsOf ((rank channel client query texts topN).run state).trace)) sorted ∧
      items = sorted.take topN := by
  have hranked := ranked_of_rank hrank
  have hlength := hranked.fitting.length_eq
  rw [← Batch.collect_split hsize hlength]
  refine ⟨_, isBestFirst_bestFirst _, ?_⟩
  rw [hranked.items_eq, Batch.merge_collect_take hsize hreplies]

/-- Three passages in two batches of which each is answered with the best one first. -/
theorem rank_eq_take_of_bestRanked_hostedInPairs :
    let run := (rank Channel.scripted hostedInPairs "q" ["a", "b", "c"] 2).run pairReplies
    run.result = .ok [⟨2, ⟨0x40400000⟩⟩, ⟨1, ⟨0x40000000⟩⟩] ∧
      (∀ rankings ∈ rankingsOf run.trace, BestRanked rankings) ∧
      ∃ sorted, IsBestFirst (allItems 2 (rankingsOf run.trace)) sorted ∧
        [⟨2, ⟨0x40400000⟩⟩, ⟨1, ⟨0x40000000⟩⟩] = sorted.take 2 := by
  have hrankings : rankingsOf
      ((rank Channel.scripted hostedInPairs "q" ["a", "b", "c"] 2).run pairReplies).trace =
        [[⟨1, ⟨0x40000000⟩⟩, ⟨0, ⟨0x3f800000⟩⟩], [⟨0, ⟨0x40400000⟩⟩]] := by
    decide +kernel
  have hreplies : ∀ rankings ∈ rankingsOf
      ((rank Channel.scripted hostedInPairs "q" ["a", "b", "c"] 2).run pairReplies).trace,
        BestRanked rankings := by
    rw [hrankings]
    decide
  exact ⟨result_rank_hostedInPairs, hreplies,
    rank_eq_take_of_bestRanked Channel.scripted hostedInPairs (by decide) "q" ["a", "b", "c"] 2
      pairReplies result_rank_hostedInPairs hreplies⟩

end Reranker

end Rerank
