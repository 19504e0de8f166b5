import Mathlib
import Rerank.Batch

/-!
# Where passages are cut

With batches of `size` passages, batch number `k` holds the passages from number `k * size` on, as
many of them as there are but at most `size`.  A passage stands in the batch that the quotient of its
number by `size` gives, at the place that the remainder gives.
-/

namespace Rerank.Batch

variable {α : Type} {size : Nat}

theorem getElem?_pieces (hsize : 0 < size) (l : List α) (k : Nat) :
    (pieces size l)[k]? = if k * size < l.length then some ((l.drop (k * size)).take size)
      else none := by
  obtain ⟨s, rfl⟩ := Nat.exists_eq_add_of_le' hsize
  induction k generalizing l with
  | zero => cases l <;> simp [pieces_cons]
  | succ k ih =>
    cases l with
    | nil => simp
    | cons a rest =>
      have hlength : (k + 1) * (s + 1) < rest.length + 1 ↔ k * (s + 1) < rest.length - s := by
        rw [Nat.succ_mul]
        omega
      have hdrop : (k + 1) * (s + 1) = (s + k * (s + 1)) + 1 := by ring
      rw [pieces_cons, List.getElem?_cons_succ, ih]
      simp only [Nat.add_sub_cancel, List.length_drop, List.length_cons, List.drop_drop, hlength]
      rw [hdrop, List.drop_succ_cons]

/-- A number is below the quotient rounded up exactly if its multiple is below the dividend. -/
theorem lt_ceilDiv_iff (hsize : 0 < size) {k n : Nat} : k < n ⌈/⌉ size ↔ k * size < n := by
  rw [← not_iff_not, Nat.not_lt, Nat.not_lt, ceilDiv_le_iff_le_mul hsize, Nat.mul_comm]

/-- As many pieces as it takes. -/
theorem length_pieces (hsize : 0 < size) (l : List α) :
    (pieces size l).length = l.length ⌈/⌉ size := by
  refine eq_of_forall_lt_iff fun k => ?_
  rw [lt_ceilDiv_iff hsize, ← not_iff_not, Nat.not_lt, ← List.getElem?_eq_none_iff,
    getElem?_pieces hsize]
  simp

theorem eq_map_range_of_getElem? {l : List α} {n : Nat} {f : Nat → α}
    (hl : ∀ k, l[k]? = if k < n then some (f k) else none) : l = (List.range n).map f := by
  apply List.ext_getElem?
  intro k
  rw [hl, List.getElem?_map]
  by_cases hk : k < n
  · rw [if_pos hk, List.getElem?_range hk, Option.map_some]
  · rw [if_neg hk, List.getElem?_eq_none (by simpa using hk), Option.map_none]

theorem pieces_eq_map_range (hsize : 0 < size) (l : List α) :
    pieces size l =
      (List.range (l.length ⌈/⌉ size)).map fun k => (l.drop (k * size)).take size :=
  eq_map_range_of_getElem? fun k => by
    simp only [getElem?_pieces hsize, lt_ceilDiv_iff hsize]

/-- Batch number `k` of some passages. -/
def nth (size : Nat) (texts : List String) (k : Nat) : Batch where
  number := k
  offset := k * size
  texts := (texts.drop (k * size)).take size

theorem getElem?_split (hsize : 0 < size) (texts : List String) (k : Nat) :
    (split size texts)[k]? =
      if k * size < texts.length then some (nth size texts k) else none := by
  rw [split, List.getElem?_map, List.getElem?_zipIdx, getElem?_pieces hsize]
  split <;> simp [nth]

theorem length_split (hsize : 0 < size) (texts : List String) :
    (split size texts).length = texts.length ⌈/⌉ size := by
  rw [split, List.length_map, List.length_zipIdx, length_pieces hsize]

/-- The batches are those that have a passage. -/
theorem split_eq_map_range (hsize : 0 < size) (texts : List String) :
    split size texts = (List.range (texts.length ⌈/⌉ size)).map (nth size texts) :=
  eq_map_range_of_getElem? fun k => by
    simp only [getElem?_split hsize, lt_ceilDiv_iff hsize]

theorem eq_nth_of_getElem? (hsize : 0 < size) {texts : List String} {k : Nat} {batch : Batch}
    (hbatch : (split size texts)[k]? = some batch) : batch = nth size texts k := by
  rw [getElem?_split hsize] at hbatch
  split at hbatch
  · exact (Option.some.inj hbatch).symm
  · contradiction

/-- Every batch is told by its number, and begins at a passage. -/
theorem exists_eq_nth_of_mem (hsize : 0 < size) {texts : List String} {batch : Batch}
    (hbatch : batch ∈ split size texts) : ∃ k, batch = nth size texts k ∧ k * size < texts.length := by
  rw [split_eq_map_range hsize] at hbatch
  obtain ⟨k, hk, rfl⟩ := List.mem_map.1 hbatch
  exact ⟨k, rfl, (lt_ceilDiv_iff hsize).1 (List.mem_range.1 hk)⟩

theorem length_texts_nth (size : Nat) (texts : List String) (k : Nat) :
    (nth size texts k).texts.length = min size (texts.length - k * size) := by
  rw [nth, List.length_take, List.length_drop]

/-- The passage at a place of a batch, among all passages. -/
theorem getElem?_texts_nth (texts : List String) (k : Nat) {place : Nat} (hplace : place < size) :
    (nth size texts k).texts[place]? = texts[k * size + place]? := by
  rw [nth, List.getElem?_take_of_lt hplace, List.getElem?_drop]

/-- The number of a passage tells its batch. -/
theorem div_of_place {k place : Nat} (hplace : place < size) : (k * size + place) / size = k := by
  rw [Nat.mul_comm, Nat.mul_add_div (Nat.zero_lt_of_lt hplace), Nat.div_eq_of_lt hplace,
    Nat.add_zero]

/-- The texts of the first batches are the first texts. -/
theorem flatMap_range_texts_nth (size : Nat) (texts : List String) (count : Nat) :
    ((List.range count).flatMap fun k => (nth size texts k).texts) = texts.take (count * size) := by
  induction count with
  | zero => simp
  | succ count ih =>
    calc
      ((List.range (count + 1)).flatMap fun k => (nth size texts k).texts) =
          texts.take (count * size) ++ (nth size texts count).texts := by
        rw [List.range_succ, List.flatMap_append, ih, List.flatMap_singleton]
      _ = texts.take (count * size + size) := by rw [List.take_add, nth]
      _ = texts.take ((count + 1) * size) := by rw [Nat.succ_mul]

/-- All batches together have all texts. -/
theorem take_ceilDiv_mul (hsize : 0 < size) (texts : List String) :
    texts.take (texts.length ⌈/⌉ size * size) = texts := by
  have hlast : ¬ texts.length ⌈/⌉ size * size < texts.length := by
    rw [← lt_ceilDiv_iff hsize]
    exact Nat.lt_irrefl _
  exact List.take_of_length_le (Nat.le_of_not_lt hlast)

/-- One batch ends before the other begins. -/
def Before (first second : Batch) : Prop :=
  first.offset + first.texts.length ≤ second.offset

/-- No two batches overlap. -/
theorem pairwise_before_split (hsize : 0 < size) (texts : List String) :
    (split size texts).Pairwise Before := by
  rw [split_eq_map_range hsize, List.pairwise_map]
  refine List.pairwise_lt_range.imp fun {k l} hkl => ?_
  have hlength := length_texts_nth size texts k
  have hnext : (k + 1) * size ≤ l * size := Nat.mul_le_mul_right size hkl
  rw [Nat.succ_mul] at hnext
  simp only [Before, nth] at hlength ⊢
  omega

end Rerank.Batch
