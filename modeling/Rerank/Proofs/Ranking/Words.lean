import Rerank.Proofs.Ranking.Soundness

/-!
# Positions in machine words

The offset of a batch is a product and the index of an item a sum.  Both are below the number of
texts, so they can be computed in words of 64 bits: neither operation wraps, whatever the size of
the batches is and whatever indices a service sends, and the results of a call are those that words
give.
-/

namespace Rerank

/-- Words multiply as numbers do if the product is a word. -/
theorem toNat_ofNat_mul {m n : Nat} (hm : m < 2 ^ 64) (hn : n < 2 ^ 64) (hproduct : m * n < 2 ^ 64) :
    (UInt64.ofNat m * UInt64.ofNat n).toNat = m * n := by
  rw [UInt64.toNat_mul, UInt64.toNat_ofNat_of_lt' hm, UInt64.toNat_ofNat_of_lt' hn,
    Nat.mod_eq_of_lt hproduct]

namespace Batch

/-- The offset of a batch, multiplied in words. -/
def wordOffset (size : Nat) (batch : Batch) : UInt64 :=
  UInt64.ofNat batch.number * UInt64.ofNat size

/-- The index of an item, added in words. -/
def wordIndex (size : Nat) (batch : Batch) (ranking : Ranking) : UInt64 :=
  batch.wordOffset size + UInt64.ofNat ranking.index

/-- The item of a ranking, with the index that words give. -/
def wordItem (size : Nat) (batch : Batch) (ranking : Ranking) : Item where
  index := (batch.wordIndex size ranking).toNat
  score := ranking.score

/-- The items that the replies to batches give, with the indices that words give. -/
def collectInWords (size : Nat) (batches : List Batch) (replies : List (List Ranking)) : List Item :=
  (List.zipWith (fun batch rankings => rankings.map (batch.wordItem size)) batches replies).flatten

/-- For a batch of `size` among `count` texts, words give what numbers give, and it is the position
of a text. -/
structure ExactInWords (size count : Nat) (batch : Batch) : Prop where
  offset_eq : batch.offset = batch.number * size
  product_lt : batch.number * size < count
  wordOffset_eq : (batch.wordOffset size).toNat = batch.number * size
  /-- Only rankings that pass the check get an index. -/
  sum_lt : ∀ rankings passed, batch.checked rankings = .ok passed → ∀ ranking ∈ passed,
    batch.offset + ranking.index < count
  wordIndex_eq : ∀ rankings passed, batch.checked rankings = .ok passed → ∀ ranking ∈ passed,
    (batch.wordIndex size ranking).toNat = batch.offset + ranking.index

variable {size : Nat} {texts : List String}

theorem toNat_wordOffset_nth (hsize : 0 < size) (hword : size < 2 ^ 64)
    (hcount : texts.length < 2 ^ 64) {k : Nat} (hk : k * size < texts.length) :
    ((nth size texts k).wordOffset size).toNat = k * size := by
  have hle : k ≤ k * size := Nat.le_mul_of_pos_right k hsize
  have hnumber : k < 2 ^ 64 := by omega
  exact toNat_ofNat_mul hnumber hword (hk.trans hcount)

/-- The index of an item is the position of a text if its ranking fits the batch. -/
theorem add_index_lt_of_fits {k : Nat} {rankings : List Ranking}
    (hfits : Fits (nth size texts k).texts.length rankings) {ranking : Ranking}
    (hranking : ranking ∈ rankings) : k * size + ranking.index < texts.length := by
  have hplace := hfits.inRange ranking hranking
  rw [length_texts_nth, Nat.lt_min] at hplace
  omega

theorem toNat_wordIndex_nth (hsize : 0 < size) (hword : size < 2 ^ 64)
    (hcount : texts.length < 2 ^ 64) {k : Nat} (hk : k * size < texts.length)
    {rankings : List Ranking} (hfits : Fits (nth size texts k).texts.length rankings)
    {ranking : Ranking} (hranking : ranking ∈ rankings) :
    ((nth size texts k).wordIndex size ranking).toNat = k * size + ranking.index := by
  have hsum : k * size + ranking.index < 2 ^ 64 :=
    (add_index_lt_of_fits hfits hranking).trans hcount
  have hindex : ranking.index < 2 ^ 64 := Nat.lt_of_le_of_lt (Nat.le_add_left _ _) hsum
  rw [wordIndex, UInt64.toNat_add, toNat_wordOffset_nth hsize hword hcount hk,
    UInt64.toNat_ofNat_of_lt' hindex, Nat.mod_eq_of_lt hsum]

theorem exactInWords_of_mem (hsize : 0 < size) (hword : size < 2 ^ 64)
    (hcount : texts.length < 2 ^ 64) {batch : Batch} (hbatch : batch ∈ split size texts) :
    ExactInWords size texts.length batch := by
  obtain ⟨k, rfl, hk⟩ := exists_eq_nth_of_mem hsize hbatch
  constructor
  case offset_eq => rfl
  case product_lt => exact hk
  case wordOffset_eq => exact toNat_wordOffset_nth hsize hword hcount hk
  case sum_lt =>
    intro rankings passed hpassed ranking hranking
    obtain ⟨rfl, hfits⟩ := checked_eq_ok_iff.1 hpassed
    exact add_index_lt_of_fits hfits hranking
  case wordIndex_eq =>
    intro rankings passed hpassed ranking hranking
    obtain ⟨rfl, hfits⟩ := checked_eq_ok_iff.1 hpassed
    exact toNat_wordIndex_nth hsize hword hcount hk hfits hranking

/-- Replies that fit their batches give the items that words give. -/
theorem collectInWords_eq_collect {count : Nat} {batches : List Batch}
    {replies : List (List Ranking)} (hfitting : Fitting batches replies)
    (hexact : ∀ batch ∈ batches, ExactInWords size count batch) :
    collectInWords size batches replies = collect batches replies := by
  induction hfitting with
  | nil => rfl
  | @cons batch rankings rest more hfits _ ih =>
    obtain ⟨hfirst, hrest⟩ := List.forall_mem_cons.1 hexact
    have hitems : rankings.map (batch.wordItem size) = rankings.map batch.item := by
      refine List.map_congr_left fun ranking hranking => ?_
      have hindex := hfirst.wordIndex_eq rankings rankings (checked_eq_ok_iff.2 ⟨rfl, hfits⟩)
        ranking hranking
      rw [wordItem, hindex, item]
    rw [collect_cons_cons, ← ih hrest, ← hitems]
    rfl

end Batch

namespace Reranker

/-- Positions are exact in machine words.  Batches have at least one text each, and for every batch
that a call goes over and every ranking in a reply to it that passes the check, the offset and the
index of the item are positions of texts and are computed in words of 64 bits without wrapping; what
a call returns is what words give. -/
theorem positions_exact_in_words [Url.Idna] {client : Reranker} (hclient : client.Connected)
    (hword : client.service.maxBatchSize < 2 ^ 64) {texts : List String}
    (hcount : texts.length < 2 ^ 63) :
    let size := client.service.maxBatchSize
    let batches := Batch.split size texts
    (1 ≤ UInt64.ofNat size ∧ (UInt64.ofNat size).toNat = size) ∧
    (∀ batch ∈ batches, Batch.ExactInWords size texts.length batch) ∧
    ∀ (σ : Type) (channel : Channel σ) (query : String) (topN : Nat) (state : σ) (items : List Item),
      let run := (rank channel client query texts topN).run state
      run.result = .ok items → items = merge texts.length size topN
        (Batch.collectInWords size batches ((rankingsOf run.trace).map (List.take topN))) := by
  have hsize := hclient.maxBatchSize_pos
  have hexact : ∀ batch ∈ Batch.split client.service.maxBatchSize texts,
      Batch.ExactInWords client.service.maxBatchSize texts.length batch :=
    fun batch hbatch => Batch.exactInWords_of_mem hsize hword (by omega) hbatch
  have hchunk : (UInt64.ofNat client.service.maxBatchSize).toNat = client.service.maxBatchSize :=
    UInt64.toNat_ofNat_of_lt' hword
  refine ⟨⟨?_, hchunk⟩, hexact, ?_⟩
  · rw [UInt64.le_iff_toNat_le, hchunk]
    exact hsize
  · intro σ channel query topN state items run hitems
    have hranked := ranked_of_rank hitems
    rw [Batch.collectInWords_eq_collect (hranked.fitting.take topN) hexact]
    exact hranked.items_eq

/-- Three passages in two batches, of which the second begins at the third passage. -/
theorem positions_exact_in_words_hostedInPairs :
    let run := (rank Channel.scripted hostedInPairs "q" ["a", "b", "c"] 2).run pairReplies
    hostedInPairs.Connected ∧ hostedInPairs.service.maxBatchSize < 2 ^ 64 ∧
      ["a", "b", "c"].length < 2 ^ 63 ∧
      Batch.ExactInWords 2 3 { number := 1, offset := 2, texts := ["c"] } ∧
      run.result = .ok [⟨2, ⟨0x40400000⟩⟩, ⟨1, ⟨0x40000000⟩⟩] ∧
      [⟨2, ⟨0x40400000⟩⟩, ⟨1, ⟨0x40000000⟩⟩] = merge 3 2 2
        (Batch.collectInWords 2 (Batch.split 2 ["a", "b", "c"])
          ((rankingsOf run.trace).map (List.take 2))) := by
  have hword : hostedInPairs.service.maxBatchSize < 2 ^ 64 := by decide
  have hcount : ["a", "b", "c"].length < 2 ^ 63 := by decide
  obtain ⟨-, hexact, hitems⟩ := positions_exact_in_words connected_hostedInPairs hword hcount
  refine ⟨connected_hostedInPairs, hword, hcount, hexact _ ?_, result_rank_hostedInPairs,
    hitems _ _ _ _ _ _ result_rank_hostedInPairs⟩
  decide +kernel

end Reranker

end Rerank
