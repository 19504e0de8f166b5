import Rerank.Proofs.Batch.Cutting
import Rerank.Proofs.Batch.Reading
import Rerank.Proofs.BestFirst

/-!
# The items of several batches

The rankings of the replies to some batches become items, batch after batch.  If the rankings fit
their batches and the batches do not overlap, no two items have the same index, and an index tells
the batch and the ranking that it comes from.
-/

namespace Rerank

namespace Batch

/-- The items that the replies to batches give. -/
def collect (batches : List Batch) (replies : List (List Ranking)) : List Item :=
  (List.zipWith (fun batch rankings => rankings.map batch.item) batches replies).flatten

/-- Each reply fits its batch, and there is one for each. -/
def Fitting (batches : List Batch) (replies : List (List Ranking)) : Prop :=
  List.Forall₂ (fun batch rankings => Fits batch.texts.length rankings) batches replies

variable {batches : List Batch} {replies : List (List Ranking)}

@[simp]
theorem collect_nil (replies : List (List Ranking)) : collect [] replies = [] := by
  simp [collect]

@[simp]
theorem collect_cons_cons (batch : Batch) (rest : List Batch) (rankings : List Ranking)
    (more : List (List Ranking)) :
    collect (batch :: rest) (rankings :: more) = rankings.map batch.item ++ collect rest more := by
  simp [collect]

/-- An item comes from a ranking in the reply to one of the batches. -/
theorem mem_collect {item : Item} (hitem : item ∈ collect batches replies) :
    ∃ (k : Nat) (batch : Batch) (rankings : List Ranking) (ranking : Ranking),
      batches[k]? = some batch ∧ replies[k]? = some rankings ∧ ranking ∈ rankings ∧
        item = batch.item ranking := by
  rw [collect, List.mem_flatten] at hitem
  obtain ⟨items, hitems, hmem⟩ := hitem
  obtain ⟨k, hk⟩ := List.mem_iff_getElem?.1 hitems
  rw [List.getElem?_zipWith_eq_some] at hk
  obtain ⟨batch, rankings, hbatch, hrankings, rfl⟩ := hk
  obtain ⟨ranking, hranking, rfl⟩ := List.mem_map.1 hmem
  exact ⟨k, batch, rankings, ranking, hbatch, hrankings, hranking, rfl⟩

/-- One item for each ranking. -/
theorem length_collect (hlength : batches.length = replies.length) :
    (collect batches replies).length = (replies.map List.length).sum := by
  induction batches generalizing replies with
  | nil =>
    rw [List.length_nil, eq_comm, List.length_eq_zero_iff] at hlength
    rw [hlength]
    rfl
  | cons batch rest ih =>
    cases replies with
    | nil => contradiction
    | cons rankings more =>
      rw [collect_cons_cons, List.length_append, ih (Nat.succ.inj hlength), List.length_map,
        List.map_cons, List.sum_cons]

theorem Fitting.getElem? (hfitting : Fitting batches replies) {k : Nat} {batch : Batch}
    {rankings : List Ranking} (hbatch : batches[k]? = some batch)
    (hrankings : replies[k]? = some rankings) : Fits batch.texts.length rankings := by
  obtain ⟨hk, rfl⟩ := List.getElem?_eq_some_iff.1 hbatch
  obtain ⟨hk', rfl⟩ := List.getElem?_eq_some_iff.1 hrankings
  exact hfitting.get hk hk'

/-- Part of what fits fits. -/
theorem Fitting.take (hfitting : Fitting batches replies) (n : Nat) :
    Fitting batches (replies.map (List.take n)) := by
  refine List.forall₂_map_right_iff.2 (hfitting.imp fun batch rankings hfits => ⟨?_, ?_⟩)
  · exact fun ranking hranking => hfits.inRange ranking (List.mem_of_mem_take hranking)
  · rw [List.map_take]
    exact hfits.distinct.sublist (List.take_sublist n _)

/-- What is collected of shorter fronts is part of what is collected of longer ones. -/
theorem collect_take_sublist {n m : Nat} (hle : n ≤ m) (batches : List Batch)
    (replies : List (List Ranking)) :
    (collect batches (replies.map (List.take n))).Sublist
      (collect batches (replies.map (List.take m))) := by
  induction batches generalizing replies with
  | nil => simp
  | cons batch rest ih =>
    cases replies with
    | nil => simp [collect]
    | cons rankings more =>
      simp only [List.map_cons, collect_cons_cons]
      exact ((List.take_sublist_take_left hle).map batch.item).append (ih more)

/-- The indices that a batch gives lie in its range. -/
theorem item_index_mem {batch : Batch} {rankings : List Ranking}
    (hfits : Fits batch.texts.length rankings) {item : Item}
    (hitem : item ∈ rankings.map batch.item) :
    batch.offset ≤ item.index ∧ item.index < batch.offset + batch.texts.length := by
  obtain ⟨ranking, hranking, rfl⟩ := List.mem_map.1 hitem
  have hindex := hfits.inRange ranking hranking
  simp only [Batch.item]
  omega

/-- No two items of batches that do not overlap have the same index. -/
theorem Fitting.nodup_collect (hfitting : Fitting batches replies)
    (hbefore : batches.Pairwise Before) : ((collect batches replies).map Item.index).Nodup := by
  induction hfitting with
  | nil => simp
  | @cons batch rankings rest more hfits hrest ih =>
    obtain ⟨hfirst, hlater⟩ := List.pairwise_cons.1 hbefore
    rw [collect_cons_cons, List.map_append, List.nodup_append]
    refine ⟨?_, ih hlater, ?_⟩
    · have hshifted : (rankings.map batch.item).map Item.index =
          (rankings.map Ranking.index).map (batch.offset + ·) := by
        rw [List.map_map, List.map_map]
        rfl
      rw [hshifted]
      exact hfits.distinct.map (add_right_injective _)
    · intro index hindex other hother
      obtain ⟨item, hitem, rfl⟩ := List.mem_map.1 hindex
      obtain ⟨item', hitem', rfl⟩ := List.mem_map.1 hother
      obtain ⟨k, batch', rankings', ranking, hbatch', hrankings', hranking, rfl⟩ :=
        mem_collect hitem'
      have hgap : Before batch batch' := hfirst batch' (List.mem_of_getElem? hbatch')
      have hrange := item_index_mem hfits hitem
      have hrange' := item_index_mem (Fitting.getElem? hrest hbatch' hrankings')
        (List.mem_map_of_mem hranking)
      simp only [Before] at hgap
      omega

end Batch

end Rerank
