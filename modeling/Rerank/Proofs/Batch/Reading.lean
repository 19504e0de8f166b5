import Rerank.Batch
import Rerank.Proofs.Reply

/-!
# What a batch reads

A batch takes its rankings from what came of its request.  They are fit for it if each is of a
passage of the batch and no two are of the same; a batch fails with the transport, with the status,
with the body or with the indices, whichever is met first.
-/

namespace Rerank

/-- The rankings in what came of a request. -/
def decode (outcome : Except Failure Response) : Except Failure (List Ranking) := do
  let reply ← outcome
  let reply ← reply.successful
  parseRankings reply.body

/-- Success statuses and readable bodies are what rankings are decoded from. -/
theorem decode_eq_ok_iff {outcome : Except Failure Response} {rankings : List Ranking} :
    decode outcome = .ok rankings ↔
      ∃ reply, outcome = .ok reply ∧ 200 ≤ reply.status ∧ reply.status < 300 ∧
        parseRankings reply.body = .ok rankings := by
  simp only [decode, except_bind_eq_ok_iff, Response.successful_eq_ok_iff]
  constructor
  · rintro ⟨reply, hreply, _, ⟨rfl, hlow, hhigh⟩, hparse⟩
    exact ⟨_, hreply, hlow, hhigh, hparse⟩
  · rintro ⟨reply, hreply, hlow, hhigh, hparse⟩
    exact ⟨reply, hreply, reply, ⟨rfl, hlow, hhigh⟩, hparse⟩

/-- The rankings are of passages of a batch of `size`, each of another one. -/
structure Fits (size : Nat) (rankings : List Ranking) : Prop where
  inRange : ∀ ranking ∈ rankings, ranking.index < size
  distinct : (rankings.map Ranking.index).Nodup

/-- Of the numbers below `n` there are no more than `n`. -/
theorem length_le_of_nodup_of_lt {n : Nat} {numbers : List Nat} (hdistinct : numbers.Nodup)
    (hlt : ∀ number ∈ numbers, number < n) : numbers.length ≤ n := by
  have hsubset : numbers ⊆ List.range n := fun number hnumber =>
    List.mem_range.2 (hlt number hnumber)
  simpa using hdistinct.length_le_of_subset hsubset

@[simp]
theorem fits_nil (size : Nat) : Fits size [] where
  inRange _ hranking := absurd hranking List.not_mem_nil
  distinct := List.nodup_nil

theorem fits_cons {size : Nat} {ranking : Ranking} {rest : List Ranking} :
    Fits size (ranking :: rest) ↔
      ranking.index < size ∧ ranking.index ∉ rest.map Ranking.index ∧ Fits size rest := by
  constructor
  · intro hfits
    obtain ⟨hfirst, hrest⟩ := List.forall_mem_cons.1 hfits.inRange
    obtain ⟨hnew, hdistinct⟩ := List.nodup_cons.1 hfits.distinct
    exact ⟨hfirst, hnew, hrest, hdistinct⟩
  · rintro ⟨hfirst, hnew, hrest⟩
    exact ⟨List.forall_mem_cons.2 ⟨hfirst, hrest.inRange⟩, List.nodup_cons.2 ⟨hnew, hrest.distinct⟩⟩

namespace Batch

/-- Nothing is wrong with rankings that fit, none of them of a passage seen before. -/
theorem indexFault?_eq_none_iff (size : Nat) (seen : List Nat) (rankings : List Ranking) :
    indexFault? size seen rankings = none ↔
      Fits size rankings ∧ ∀ index ∈ rankings.map Ranking.index, index ∉ seen := by
  induction rankings generalizing seen with
  | nil => simp [indexFault?]
  | cons ranking rest ih =>
    rw [indexFault?, fits_cons, List.map_cons, List.forall_mem_cons]
    by_cases hrange : size ≤ ranking.index
    · simp [hrange, Nat.not_lt.2 hrange]
    · by_cases hseen : ranking.index ∈ seen
      · simp [hrange, hseen]
      · -- What is new beside the first index and those before it is new beside both.
        have hboth : (∀ index ∈ rest.map Ranking.index, index ∉ ranking.index :: seen) ↔
            ranking.index ∉ rest.map Ranking.index ∧
              ∀ index ∈ rest.map Ranking.index, index ∉ seen := by
          simp only [List.mem_cons, not_or]
          constructor
          · exact fun hnew => ⟨fun hmem => (hnew _ hmem).1 rfl, fun index hmem => (hnew index hmem).2⟩
          · rintro ⟨hfirst, hold⟩ index hmem
            exact ⟨fun heq => hfirst (heq ▸ hmem), hold index hmem⟩
        rw [if_neg hrange, if_neg hseen, ih, hboth]
        simp only [Nat.lt_of_not_le hrange, hseen, not_false_eq_true, true_and]
        tauto

theorem checked_eq_ok_iff {batch : Batch} {rankings checked : List Ranking} :
    batch.checked rankings = .ok checked ↔
      checked = rankings ∧ Fits batch.texts.length rankings := by
  have hnone := indexFault?_eq_none_iff batch.texts.length [] rankings
  rw [Batch.checked]
  split
  · next fault hfault => simp [hfault] at hnone; simp [hnone]
  · next hok => simp [hok] at hnone; simp [hnone, eq_comm]

/-- The rankings that a batch takes from what came of its request. -/
def reading (batch : Batch) (outcome : Except Failure Response) : Except Failure (List Ranking) := do
  batch.checked (← decode outcome)

theorem reading_eq_ok_iff {batch : Batch} {outcome : Except Failure Response}
    {rankings : List Ranking} :
    batch.reading outcome = .ok rankings ↔
      decode outcome = .ok rankings ∧ Fits batch.texts.length rankings := by
  cases hdecode : decode outcome with
  | error failure => simp [reading, hdecode, bind, Except.bind]
  | ok decoded =>
    simp only [reading, hdecode, bind, Except.bind, checked_eq_ok_iff, Except.ok.injEq]
    constructor
    · rintro ⟨rfl, hfits⟩
      exact ⟨rfl, hfits⟩
    · rintro ⟨rfl, hfits⟩
      exact ⟨rfl, hfits⟩

/-- What is logged about what came of the request of a batch. -/
def records (batch : Batch) (outcome : Except Failure Response) : List LogRecord :=
  match decode outcome with
  | .ok rankings => [.batchScored batch.number batch.texts.length rankings.length]
  | .error _ => []

end Batch

end Rerank
