import Rerank.Proofs.Batch.Fault
import Rerank.Proofs.Ranking.Basic

/-!
# The first wrong index of a reply

The rankings of a reply pass if their indices are of distinct passages of the batch.  If they do not,
there is a first position at which an index is of no passage or stands at an earlier position too,
and the failure names that index.  How many of the rankings are kept afterwards does not matter.
-/

namespace Rerank

namespace Batch

/-- The index at a position is of no passage of a batch of `size`, or it stands at an earlier
position too. -/
def WrongAt (size : Nat) (indices : List Nat) (position : Nat) : Prop :=
  ∃ index, indices[position]? = some index ∧
    (size ≤ index ∨ ∃ earlier < position, indices[earlier]? = some index)

/-- The failure is about the first wrong index, which stands at a position. -/
structure Reports (size : Nat) (indices : List Nat) (position index : Nat) (failure : Failure) :
    Prop where
  first : IsLeast {position | WrongAt size indices position} position
  given : indices[position]? = some index
  outOfBatch : size ≤ index → failure = .reply (.indexOutOfBatch index size) ∧
    failure.message = "provider returned invalid response: " ++
      s!"ranking index {index} out of range for batch of {size}"
  repeated : index < size → failure = .reply (.repeatedIndex index) ∧
    failure.message = "provider returned invalid response: " ++
      s!"ranking index {index} repeated within one batch"

/-- Whether an index is wrong depends on what stands before it only. -/
theorem wrongAt_append_iff {size position : Nat} {front : List Nat} (rest : List Nat)
    (hposition : position < front.length) :
    WrongAt size (front ++ rest) position ↔ WrongAt size front position := by
  have hfront {k : Nat} (hk : k ≤ position) : (front ++ rest)[k]? = front[k]? :=
    List.getElem?_append_left (Nat.lt_of_le_of_lt hk hposition)
  simp only [WrongAt, hfront le_rfl]
  refine exists_congr fun index => and_congr_right fun _ => or_congr_right ?_
  refine exists_congr fun earlier => and_congr_right fun hlt => ?_
  rw [hfront hlt.le]

/-- Rankings fit a batch exactly if none of their indices is wrong. -/
theorem fits_iff_forall_not_wrongAt {size : Nat} {rankings : List Ranking} :
    Fits size rankings ↔ ∀ position, ¬ WrongAt size (rankings.map Ranking.index) position := by
  constructor
  · rintro hfits position ⟨index, hindex, hrange | ⟨earlier, hlt, hsame⟩⟩
    · obtain ⟨ranking, hranking, rfl⟩ := List.mem_map.1 (List.mem_of_getElem? hindex)
      exact Nat.not_le.2 (hfits.inRange ranking hranking) hrange
    · have hearlier := (List.getElem?_eq_some_iff.1 hsame).1
      exact hlt.ne ((List.getElem?_inj hearlier hfits.distinct).1 (hsame.trans hindex.symm))
  · intro hright
    constructor
    · intro ranking hranking
      obtain ⟨position, hposition⟩ := List.mem_iff_getElem?.1
        (List.mem_map_of_mem (f := Ranking.index) hranking)
      refine Nat.lt_of_not_le fun hrange => ?_
      exact hright position ⟨_, hposition, .inl hrange⟩
    · rw [List.nodup_iff_getElem?_ne_getElem?]
      intro earlier position hlt hposition hsame
      have hindex := List.getElem?_eq_getElem hposition
      exact hright position ⟨_, hindex, .inr ⟨earlier, hlt, hsame.trans hindex⟩⟩

/-- An index after rankings that fit is wrong exactly if it is misplaced there. -/
theorem wrongAt_length_iff {size : Nat} {before after : List Nat} {index : Nat} :
    WrongAt size (before ++ index :: after) before.length ↔
      ∃ reason, Misplaced size before index reason := by
  constructor
  · rintro ⟨other, hother, hwrong⟩
    obtain rfl : index = other := by simpa using hother
    by_cases hrange : size ≤ index
    · exact ⟨_, .outOfBatch hrange⟩
    · obtain hout | ⟨earlier, hlt, hsame⟩ := hwrong
      · contradiction
      · rw [List.getElem?_append_left hlt] at hsame
        exact ⟨_, .repeated (Nat.lt_of_not_le hrange) (List.mem_of_getElem? hsame)⟩
  · rintro ⟨reason, hmisplaced⟩
    refine ⟨index, by simp, ?_⟩
    cases hmisplaced with
    | outOfBatch hrange => exact .inl hrange
    | repeated hrange hseen =>
      obtain ⟨earlier, hsame⟩ := List.mem_iff_getElem?.1 hseen
      have hlt := (List.getElem?_eq_some_iff.1 hsame).1
      exact .inr ⟨earlier, hlt, by rw [List.getElem?_append_left hlt, hsame]⟩

/-- What is misplaced after rankings that fit is the first to be wrong. -/
theorem Reports.of_misplaced {size : Nat} {before : List Ranking} {ranking : Ranking}
    (after : List Ranking) {reason : ReplyFault} (hfits : Fits size before)
    (hmisplaced : Misplaced size (before.map Ranking.index) ranking.index reason) :
    Reports size ((before ++ ranking :: after).map Ranking.index) before.length ranking.index
      (.reply reason) := by
  rw [List.map_append, List.map_cons, ← List.length_map (f := Ranking.index)]
  constructor
  case first =>
    refine ⟨wrongAt_length_iff.2 ⟨reason, hmisplaced⟩, fun position hwrong => ?_⟩
    refine Nat.le_of_not_lt fun hlt => ?_
    exact fits_iff_forall_not_wrongAt.1 hfits position ((wrongAt_append_iff _ hlt).1 hwrong)
  case given => simp
  case outOfBatch =>
    intro hrange
    cases hmisplaced with
    | outOfBatch => exact ⟨rfl, rfl⟩
    | repeated hinside => exact absurd hrange (Nat.not_le.2 hinside)
  case repeated =>
    intro hinside
    cases hmisplaced with
    | outOfBatch hrange => exact absurd hrange (Nat.not_le.2 hinside)
    | repeated => exact ⟨rfl, rfl⟩

/-- What is first to be wrong is misplaced after rankings that fit. -/
theorem Reports.exists_misplaced {size : Nat} {rankings : List Ranking} {position index : Nat}
    {failure : Failure}
    (hreports : Reports size (rankings.map Ranking.index) position index failure) :
    ∃ before ranking after reason, rankings = before ++ ranking :: after ∧ Fits size before ∧
      Misplaced size (before.map Ranking.index) ranking.index reason ∧
      failure = .reply reason := by
  obtain ⟨⟨hwrong, hleast⟩, hgiven, hout, hrepeated⟩ := hreports
  obtain ⟨before, ranking, after, rfl, rfl⟩ : ∃ before ranking after,
      rankings = before ++ ranking :: after ∧ position = before.length := by
    have hposition : position < rankings.length := by
      simpa using (List.getElem?_eq_some_iff.1 hgiven).1
    refine ⟨rankings.take position, rankings[position], rankings.drop (position + 1), ?_, ?_⟩
    · rw [← List.drop_eq_getElem_cons hposition, List.take_append_drop]
    · rw [List.length_take, Nat.min_eq_left hposition.le]
  obtain rfl : ranking.index = index := by simpa using hgiven
  rw [List.map_append, List.map_cons, ← List.length_map (f := Ranking.index)] at hwrong hleast
  obtain ⟨reason, hmisplaced⟩ := wrongAt_length_iff.1 hwrong
  refine ⟨before, ranking, after, reason, rfl, ?_, hmisplaced, ?_⟩
  · refine fits_iff_forall_not_wrongAt.2 fun earlier hearlier => ?_
    obtain ⟨other, hother, -⟩ := id hearlier
    have hlt := (List.getElem?_eq_some_iff.1 hother).1
    exact Nat.not_le.2 hlt (hleast ((wrongAt_append_iff _ hlt).2 hearlier))
  · cases hmisplaced with
    | outOfBatch hrange => exact (hout hrange).1
    | repeated hinside => exact (hrepeated hinside).1

/-- The check fails exactly with what there is to report of the first wrong index. -/
theorem checked_eq_error_iff_reports {batch : Batch} {rankings : List Ranking}
    {failure : Failure} :
    batch.checked rankings = .error failure ↔
      ∃ position index, Reports batch.texts.length (rankings.map Ranking.index) position index
        failure := by
  rw [checked_eq_error_iff]
  constructor
  · rintro ⟨before, ranking, after, reason, rfl, hfits, hmisplaced, rfl⟩
    exact ⟨before.length, ranking.index, .of_misplaced after hfits hmisplaced⟩
  · rintro ⟨position, index, hreports⟩
    exact hreports.exists_misplaced

end Batch

namespace Reranker

/-- The check comes before anything is cut. -/
theorem result_scoreBatch_of_decode {σ : Type} {channel : Channel σ} {client : Reranker} {url : Url}
    {headers : Headers} {query : String} {batch : Batch} {state : σ} {rankings : List Ranking}
    (hdecode : decode (channel.exchange (client.post url headers query batch) state).1 =
      .ok rankings) (topN : Nat) :
    ((scoreBatch channel client url headers query topN batch).run state).result =
      (batch.checked rankings).map fun passed => (passed.take topN).map batch.item := by
  rw [run_scoreBatch]
  simp only [Batch.reading, hdecode, bind, Except.bind]

/-- The check of the indices of a reply is exact.  It lets all rankings through if their indices are
of distinct passages of the batch, however many there are, and none otherwise; then there is a first
wrong index, and the failure names it.  More rankings than passages never pass.  What is done with a
reply is decided by the check alone, and how many items are kept does not matter to it. -/
theorem check_of_indices (batch : Batch) (rankings : List Ranking) :
    let size := batch.texts.length
    let indices := rankings.map Ranking.index
    (batch.checked rankings = .ok rankings ↔ (∀ index ∈ indices, index < size) ∧ indices.Nodup) ∧
    (∀ passed, batch.checked rankings = .ok passed → passed = rankings) ∧
    (∀ failure, batch.checked rankings = .error failure ↔
      ∃ position index, Batch.Reports size indices position index failure) ∧
    (size < rankings.length → ∃ failure, batch.checked rankings = .error failure) ∧
    ∀ (σ : Type) (channel : Channel σ) (client : Reranker) (url : Url) (headers : Headers)
      (query : String) (state : σ),
      decode (channel.exchange (client.post url headers query batch) state).1 = .ok rankings →
        ∀ topN, ((scoreBatch channel client url headers query topN batch).run state).result =
          (batch.checked rankings).map fun passed => (passed.take topN).map batch.item := by
  have hfits {passed : List Ranking} : batch.checked rankings = .ok passed ↔
      passed = rankings ∧ Fits batch.texts.length rankings := Batch.checked_eq_ok_iff
  refine ⟨?_, fun passed hpassed => (hfits.1 hpassed).1, ?_, ?_, ?_⟩
  · rw [hfits, List.forall_mem_map]
    constructor
    · rintro ⟨-, hinRange, hdistinct⟩
      exact ⟨hinRange, hdistinct⟩
    · rintro ⟨hinRange, hdistinct⟩
      exact ⟨rfl, hinRange, hdistinct⟩
  · intro failure
    exact Batch.checked_eq_error_iff_reports
  · intro hmany
    cases hchecked : batch.checked rankings with
    | error failure => exact ⟨failure, rfl⟩
    | ok passed =>
      obtain ⟨-, hinRange, hdistinct⟩ := hfits.1 hchecked
      have hfew := length_le_of_nodup_of_lt hdistinct (List.forall_mem_map.2 hinRange)
      rw [List.length_map] at hfew
      omega
  · intro σ channel client url headers query state hdecode topN
    exact result_scoreBatch_of_decode hdecode topN

/-- A reply with more rankings than there are passages, the second of which repeats an index. -/
theorem check_of_indices_repeatedReply :
    let batch := Batch.nth 2 ["a", "b"] 0
    let replies := [jsonReply "\x7b\"rankings\": [[1, 2], [1, 1], [0, 3]]\x7d"]
    let rankings : List Ranking := [⟨1, ⟨0x40000000⟩⟩, ⟨1, ⟨0x3f800000⟩⟩, ⟨0, ⟨0x40400000⟩⟩]
    let request := hostedInPairs.post hostedInPairs.service.baseUrl ⟨some "Bearer key"⟩ "q" batch
    decode (Channel.scripted.exchange request replies).1 = .ok rankings ∧
    (∃ position index, Batch.Reports 2 [1, 1, 0] position index (.reply (.repeatedIndex 1))) ∧
    ∀ topN, ((scoreBatch Channel.scripted hostedInPairs hostedInPairs.service.baseUrl
      ⟨some "Bearer key"⟩ "q" topN batch).run replies).result =
        .error (.reply (.repeatedIndex 1)) := by
  intro batch replies rankings request
  have hdecode : decode (Channel.scripted.exchange request replies).1 = .ok rankings := by
    decide +kernel
  have hchecked : batch.checked rankings = .error (.reply (.repeatedIndex 1)) := by
    decide +kernel
  obtain ⟨-, -, hreports, -, hresult⟩ := check_of_indices batch rankings
  refine ⟨hdecode, (hreports _).1 hchecked, fun topN => ?_⟩
  rw [hresult _ _ _ _ _ _ _ hdecode topN, hchecked]
  rfl

end Reranker

end Rerank
