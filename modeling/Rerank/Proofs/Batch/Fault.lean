import Rerank.Proofs.Batch.Reading

/-!
# What goes wrong with a batch

The exchange for a batch fails in one of five ways, and each way is reported as a failure of its
own.  They are met in this order: the transport, the status of the reply, its text, its shape, and the
indices of its rankings, of which the first wrong one is reported.
-/

namespace Rerank

namespace Batch

/-- What is wrong with an index in a batch of `size`, after indices seen before. -/
inductive Misplaced (size : Nat) (seen : List Nat) (index : Nat) : ReplyFault → Prop where
  | outOfBatch (hrange : size ≤ index) : Misplaced size seen index (.indexOutOfBatch index size)
  | repeated (hrange : index < size) (hseen : index ∈ seen) :
      Misplaced size seen index (.repeatedIndex index)

theorem Misplaced.mono {size index : Nat} {seen seen' : List Nat} {reason : ReplyFault}
    (hmisplaced : Misplaced size seen index reason) (hsubset : seen ⊆ seen') :
    Misplaced size seen' index reason := by
  cases hmisplaced with
  | outOfBatch hrange => exact .outOfBatch hrange
  | repeated hrange hseen => exact .repeated hrange (hsubset hseen)

/-- What goes wrong with the exchange for a batch of `size`, and the failure that it is reported
as. -/
inductive Fault (size : Nat) : Except Failure Response → Failure → Prop where
  | transport (failure : Failure) : Fault size (.error failure) failure
  | status {reply} (hstatus : ¬ (200 ≤ reply.status ∧ reply.status < 300)) :
      Fault size (.ok reply) (.status reply.status (Text.Utf8.decodeLossy reply.body))
  | text {reply fault} (hstatus : 200 ≤ reply.status ∧ reply.status < 300)
      (hjson : Json.parse reply.body = .error fault) :
      Fault size (.ok reply) (.malformed fault)
  | member {reply value} (hstatus : 200 ≤ reply.status ∧ reply.status < 300)
      (hjson : Json.parse reply.body = .ok value) (hmember : value.get? "rankings" = none) :
      Fault size (.ok reply) (.reply (.missingMember "rankings"))
  | shape {reply value member mismatch} (hstatus : 200 ≤ reply.status ∧ reply.status < 300)
      (hjson : Json.parse reply.body = .ok value) (hmember : value.get? "rankings" = some member)
      (hshape : Ranking.listOfJson member = .error mismatch) :
      Fault size (.ok reply) (.reply (.notRankings mismatch))
  | index {reply before ranking after reason}
      (hstatus : 200 ≤ reply.status ∧ reply.status < 300)
      (hparse : parseRankings reply.body = .ok (before ++ ranking :: after))
      (hbefore : Fits size before)
      (hmisplaced : Misplaced size (before.map Ranking.index) ranking.index reason) :
      Fault size (.ok reply) (.reply reason)

/-- The transport apart, whatever goes wrong with a batch is the fault of the service. -/
theorem Fault.category {size : Nat} {outcome : Except Failure Response} {failure : Failure}
    (hfault : Fault size outcome failure)
    (htransport : ∀ cause, outcome = .error cause → cause.category = .remote) :
    failure.category = .remote := by
  cases hfault with
  | transport => exact htransport failure rfl
  | status | text | member | shape | index => rfl

/-- The fault that is found is at the first ranking that does not go with those before it and with
the indices seen already. -/
theorem exists_of_indexFault?_eq_some {size : Nat} {seen : List Nat} {rankings : List Ranking}
    {reason : ReplyFault} (hfault : indexFault? size seen rankings = some reason) :
    ∃ before ranking after, rankings = before ++ ranking :: after ∧ Fits size before ∧
      (∀ index ∈ before.map Ranking.index, index ∉ seen) ∧
      Misplaced size (seen ++ before.map Ranking.index) ranking.index reason := by
  induction rankings generalizing seen with
  | nil => contradiction
  | cons first rest ih =>
    rw [indexFault?] at hfault
    split at hfault
    · next hrange =>
      cases hfault
      exact ⟨[], first, rest, rfl, fits_nil size, by simp, .outOfBatch hrange⟩
    · next hrange =>
      have hinside := Nat.lt_of_not_le hrange
      split at hfault
      · next hseen =>
        cases hfault
        exact ⟨[], first, rest, rfl, fits_nil size, by simp, .repeated hinside (by simpa)⟩
      · next hnew =>
        obtain ⟨before, ranking, after, rfl, hfits, hunseen, hmisplaced⟩ := ih hfault
        refine ⟨first :: before, ranking, after, rfl, fits_cons.2 ⟨hinside, ?_, hfits⟩, ?_, ?_⟩
        · intro hrepeated
          exact hunseen _ hrepeated List.mem_cons_self
        · rw [List.map_cons, List.forall_mem_cons]
          exact ⟨hnew, fun index hindex hseen =>
            hunseen index hindex (List.mem_cons_of_mem _ hseen)⟩
        · apply hmisplaced.mono
          intro index
          simp only [List.map_cons, List.mem_append, List.mem_cons]
          tauto

/-- Rankings that fit, and one after them that does not go with them, are found to be faulty. -/
theorem indexFault?_append_cons {size : Nat} {seen : List Nat} {before after : List Ranking}
    {ranking : Ranking} {reason : ReplyFault} (hfits : Fits size before)
    (hunseen : ∀ index ∈ before.map Ranking.index, index ∉ seen)
    (hmisplaced : Misplaced size (seen ++ before.map Ranking.index) ranking.index reason) :
    indexFault? size seen (before ++ ranking :: after) = some reason := by
  induction before generalizing seen with
  | nil =>
    rw [List.nil_append, indexFault?]
    cases hmisplaced with
    | outOfBatch hrange => rw [if_pos hrange]
    | repeated hrange hseen =>
      rw [if_neg (Nat.not_le.2 hrange), if_pos (by simpa using hseen)]
  | cons first before ih =>
    obtain ⟨hinside, hdistinct, hrest⟩ := fits_cons.1 hfits
    obtain ⟨hnew, hlater⟩ := List.forall_mem_cons.1 hunseen
    rw [List.cons_append, indexFault?, if_neg (Nat.not_le.2 hinside), if_neg hnew]
    apply ih hrest
    · intro index hindex hseen
      rcases List.mem_cons.1 hseen with rfl | hold
      · exact hdistinct hindex
      · exact hlater index hindex hold
    · apply hmisplaced.mono
      intro index
      simp only [List.map_cons, List.mem_append, List.mem_cons]
      tauto

theorem checked_eq_error_iff {batch : Batch} {rankings : List Ranking} {failure : Failure} :
    batch.checked rankings = .error failure ↔
      ∃ before ranking after reason, rankings = before ++ ranking :: after ∧
        Fits batch.texts.length before ∧
        Misplaced batch.texts.length (before.map Ranking.index) ranking.index reason ∧
        failure = .reply reason := by
  constructor
  · intro hchecked
    rw [checked] at hchecked
    split at hchecked
    · next reason hfault =>
      cases hchecked
      obtain ⟨before, ranking, after, hsplit, hfits, -, hmisplaced⟩ :=
        exists_of_indexFault?_eq_some hfault
      exact ⟨before, ranking, after, reason, hsplit, hfits, hmisplaced, rfl⟩
    · cases hchecked
  · rintro ⟨before, ranking, after, reason, rfl, hfits, hmisplaced, rfl⟩
    rw [checked, indexFault?_append_cons hfits (by simp) hmisplaced]

/-- A batch cannot read its rankings exactly if something goes wrong with its exchange. -/
theorem reading_eq_error_iff {batch : Batch} {outcome : Except Failure Response}
    {failure : Failure} :
    batch.reading outcome = .error failure ↔ Fault batch.texts.length outcome failure := by
  rw [reading, except_bind_eq_error_iff]
  constructor
  · rintro (hdecode | ⟨rankings, hdecode, hchecked⟩)
    · rw [decode, except_bind_eq_error_iff] at hdecode
      rcases hdecode with rfl | ⟨reply, rfl, hreply⟩
      · exact .transport failure
      rw [except_bind_eq_error_iff] at hreply
      rcases hreply with hrefused | ⟨success, hsuccess, hparse⟩
      · obtain ⟨hstatus, rfl⟩ := Response.successful_eq_error_iff.1 hrefused
        exact .status hstatus
      obtain ⟨rfl, hstatus⟩ := Response.successful_eq_ok_iff.1 hsuccess
      rcases parseRankings_eq_error_iff.1 hparse with ⟨fault, hjson, rfl⟩ |
        ⟨value, hjson, ⟨hmember, rfl⟩ | ⟨member, mismatch, hmember, hshape, rfl⟩⟩
      · exact .text hstatus hjson
      · exact .member hstatus hjson hmember
      · exact .shape hstatus hjson hmember hshape
    · obtain ⟨reply, rfl, hlow, hhigh, hparse⟩ := decode_eq_ok_iff.1 hdecode
      obtain ⟨before, ranking, after, reason, rfl, hfits, hmisplaced, rfl⟩ :=
        checked_eq_error_iff.1 hchecked
      exact .index ⟨hlow, hhigh⟩ hparse hfits hmisplaced
  · have hdecoded {reply : Response} (hstatus : 200 ≤ reply.status ∧ reply.status < 300) :
        decode (.ok reply) = parseRankings reply.body := by
      have hsuccess := Response.successful_eq_ok_iff.2 ⟨rfl, hstatus⟩
      simp only [decode, bind, Except.bind, hsuccess]
    intro hfault
    cases hfault with
    | transport => exact .inl rfl
    | @status reply hstatus =>
      have hrefused := Response.successful_eq_error_iff.2 ⟨hstatus, rfl⟩
      simp only [decode, bind, Except.bind, hrefused, true_or]
    | text hstatus hjson =>
      rw [hdecoded hstatus]
      exact .inl (parseRankings_eq_error_iff.2 (.inl ⟨_, hjson, rfl⟩))
    | member hstatus hjson hmember =>
      rw [hdecoded hstatus]
      exact .inl (parseRankings_eq_error_iff.2 (.inr ⟨_, hjson, .inl ⟨hmember, rfl⟩⟩))
    | shape hstatus hjson hmember hshape =>
      rw [hdecoded hstatus]
      exact .inl (parseRankings_eq_error_iff.2
        (.inr ⟨_, hjson, .inr ⟨_, _, hmember, hshape, rfl⟩⟩))
    | index hstatus hparse hbefore hmisplaced =>
      rw [hdecoded hstatus]
      exact .inr ⟨_, hparse, checked_eq_error_iff.2 ⟨_, _, _, _, rfl, hbefore, hmisplaced, rfl⟩⟩

end Batch

end Rerank
