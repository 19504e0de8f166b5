import Rerank.Proofs.Batch.Fault
import Rerank.Proofs.Ranking.Soundness

/-!
# How calls fail

A blank query is refused before anything else is looked at, and a call without passages has nothing
to fail at.  What is wrong with the configuration is found out before anything is sent.  After that
a call fails only as the first batch does whose exchange goes wrong, with a remote failure, and
announces no results.
-/

namespace Rerank

/-- What the channel itself fails with is remote. -/
def Channel.FailsRemotely {σ : Type} (channel : Channel σ) : Prop :=
  ∀ request state failure, (channel.exchange request state).1 = .error failure →
    failure.category = .remote

theorem Channel.failsRemotely_scripted : scripted.FailsRemotely := by
  intro request replies failure hfailure
  cases replies with
  | nil =>
    cases hfailure
    rfl
  | cons reply rest => cases hfailure

namespace Batch

/-- The last exchange is the first one that went wrong, and this is what it is reported as. -/
def FirstFault (batches : List Batch) (outcomes : List (Except Failure Response))
    (failure : Failure) : Prop :=
  ∃ k batch outcome, k + 1 = outcomes.length ∧ batches[k]? = some batch ∧
    outcomes[k]? = some outcome ∧ Fault batch.texts.length outcome failure ∧
    ∀ j < k, ∀ earlier answer, batches[j]? = some earlier → outcomes[j]? = some answer →
      ∀ cause, ¬ Fault earlier.texts.length answer cause

theorem Answered.eq_error_iff {batches : List Batch} {outcomes : List (Except Failure Response)}
    {result : Except Failure (List (List Ranking))} {failure : Failure}
    (hanswered : Answered batches outcomes result) :
    result = .error failure ↔ FirstFault batches outcomes failure := by
  constructor
  · rintro rfl
    obtain ⟨k, batch, outcome, hlast, hbatch, houtcome, hreading⟩ := hanswered.exists_last_of_error
    refine ⟨k, batch, outcome, hlast, hbatch, houtcome, reading_eq_error_iff.1 hreading, ?_⟩
    intro j hj earlier answer hearlier hanswer cause hfault
    obtain ⟨rankings, hread⟩ := hanswered.reading_of_succ_lt hearlier hanswer (by omega)
    rw [reading_eq_error_iff.2 hfault] at hread
    contradiction
  · rintro ⟨k, batch, outcome, hlast, hbatch, houtcome, hfault, -⟩
    have hreading := reading_eq_error_iff.2 hfault
    cases result with
    | ok replies =>
      obtain ⟨rankings, hread⟩ :=
        hanswered.eq_ok_iff.1 ⟨replies, rfl⟩ k batch outcome hbatch houtcome
      rw [hreading] at hread
      contradiction
    | error cause =>
      obtain ⟨k', batch', outcome', hlast', hbatch', houtcome', hreading'⟩ :=
        hanswered.exists_last_of_error
      obtain rfl : k = k' := by omega
      obtain rfl : batch = batch' := Option.some.inj (hbatch.symm.trans hbatch')
      obtain rfl : outcome = outcome' := Option.some.inj (houtcome.symm.trans houtcome')
      obtain rfl : failure = cause := Except.error.inj (hreading.symm.trans hreading')
      rfl

end Batch

namespace Reranker

/-- How a call may fail; `nothing` is its result when there is nothing to rank. -/
structure Classified {σ β : Type} (client : Reranker) (query : String) (texts : List String)
    (topN : Nat) (nothing : β) (run : Run σ β) : Prop where
  /-- Even without texts. -/
  of_blank : Text.isBlank query = true →
    run.result = .error .emptyQuery ∧ Failure.emptyQuery.category = .validation ∧
      requestsOf run.trace = []
  of_empty : Text.isBlank query = false → texts = [] →
    run.result = .ok nothing ∧ requestsOf run.trace = []
  of_config : ∀ failure, run.result = .error failure → failure.category = .config →
    requestsOf run.trace = []
  of_sent : requestsOf run.trace ≠ [] → ∀ failure, run.result = .error failure →
    failure.category = .remote
  eq_error_iff : requestsOf run.trace ≠ [] → ∀ failure, run.result = .error failure ↔
    Batch.FirstFault (Batch.split client.service.maxBatchSize texts) (outcomesOf run.trace) failure
  /-- A call that fails announces no results. -/
  events_of_error : ∀ failure, run.result = .error failure →
    eventsOf run.trace = [.started query texts topN client.service.model]

variable {σ : Type} {channel : Channel σ} {client : Reranker} {query : String}
  {texts : List String} {topN : Nat} {state : σ}

/-- A call that sends nothing is classified by its result. -/
theorem classified_of_unsent {result : Except Failure (List Item)}
    (hblank : Text.isBlank query = true → result = .error .emptyQuery)
    (hempty : Text.isBlank query = false → texts = [] → result = .ok []) :
    Classified client query texts topN ([] : List Item)
      (⟨result, state, client.opening query texts topN⟩ : Run σ (List Item)) where
  of_blank hquery := ⟨hblank hquery, rfl, requestsOf_opening client topN⟩
  of_empty hquery htexts := ⟨hempty hquery htexts, requestsOf_opening client topN⟩
  of_config _ _ _ := requestsOf_opening client topN
  of_sent hsent := absurd (requestsOf_opening client topN) hsent
  eq_error_iff hsent := absurd (requestsOf_opening client topN) hsent
  events_of_error _ _ := eventsOf_deliver _ _

section Addressed

variable [Url.Idna] (hquery : Text.isBlank query = false) (htexts : texts ≠ []) {url : Url}
  {headers : Headers} (haddressing : client.addressing = .ok (url, headers))

include hquery htexts haddressing

/-- A call that asks about its batches fails as they do. -/
theorem eq_error_iff_of_addressed {failure : Failure} :
    ((rank channel client query texts topN).run state).result = .error failure ↔
      Batch.FirstFault (Batch.split client.service.maxBatchSize texts)
        (outcomesOf ((rank channel client query texts topN).run state).trace) failure := by
  obtain ⟨result, hanswered, hresult, -⟩ :=
    answered_of_rank channel client topN state hquery htexts haddressing
  rw [← hanswered.eq_error_iff, hresult]
  cases result <;> simp [Except.map]

/-- Such a call has only remote failures. -/
theorem remote_of_addressed (hchannel : channel.FailsRemotely) {failure : Failure}
    (hfailure : ((rank channel client query texts topN).run state).result = .error failure) :
    failure.category = .remote := by
  obtain ⟨k, batch, outcome, -, -, houtcome, hfault, -⟩ :=
    (eq_error_iff_of_addressed hquery htexts haddressing).1 hfailure
  rw [run_rank_of_addressed channel client topN state hquery htexts haddressing] at houtcome
  simp only [outcomesOf_append, outcomesOf_opening, outcomesOf_closing, List.nil_append,
    List.append_nil] at houtcome
  obtain ⟨request, before, rfl⟩ := exists_exchange_of_mem_outcomesOf channel client url headers
    query topN (List.mem_of_getElem? houtcome)
  exact hfault.category fun cause hcause => hchannel request before cause hcause

theorem classified_of_addressed (hchannel : channel.FailsRemotely) :
    Classified client query texts topN [] ((rank channel client query texts topN).run state) := by
  constructor
  case of_blank =>
    intro hblank
    rw [hquery] at hblank
    contradiction
  case of_empty => exact fun _ hempty => absurd hempty htexts
  case of_config =>
    intro failure hfailure hconfig
    rw [remote_of_addressed hquery htexts haddressing hchannel hfailure] at hconfig
    contradiction
  case of_sent =>
    exact fun _ failure => remote_of_addressed hquery htexts haddressing hchannel
  case eq_error_iff => exact fun _ failure => eq_error_iff_of_addressed hquery htexts haddressing
  case events_of_error =>
    intro failure hfailure
    rw [run_rank_of_addressed channel client topN state hquery htexts haddressing] at hfailure ⊢
    dsimp only at hfailure ⊢
    rw [hfailure, closing, List.append_nil, eventsOf_append, eventsOf_scoreBatches,
      List.append_nil]
    exact eventsOf_deliver _ _

end Addressed

theorem classified_rank [Url.Idna] (hchannel : channel.FailsRemotely) (client : Reranker)
    (query : String) (texts : List String) (topN : Nat) (state : σ) :
    Classified client query texts topN [] ((rank channel client query texts topN).run state) := by
  obtain ⟨result, hrun, hblank, hempty⟩ | ⟨hquery, htexts, url, headers, haddressing⟩ :=
    rank_unsent_or_addressed channel client topN state query texts
  · rw [hrun]
    exact classified_of_unsent hblank hempty
  · exact classified_of_addressed hquery htexts haddressing hchannel

/-- Another call that sees the same and fails alike is classified alike. -/
theorem Classified.of_same {β γ : Type} {run : Run σ β} {other : Run σ γ} {nothing : β}
    {nothing' : γ} (hclassified : Classified client query texts topN nothing run)
    (htrace : other.trace = run.trace)
    (herror : ∀ failure, other.result = .error failure ↔ run.result = .error failure)
    (hnothing : texts = [] → run.result = .ok nothing → other.result = .ok nothing') :
    Classified client query texts topN nothing' other := by
  constructor
  case of_blank =>
    intro hblank
    rw [htrace, herror]
    exact hclassified.of_blank hblank
  case of_empty =>
    intro hquery hempty
    obtain ⟨hresult, hrequests⟩ := hclassified.of_empty hquery hempty
    exact ⟨hnothing hempty hresult, htrace ▸ hrequests⟩
  case of_config =>
    intro failure
    rw [htrace, herror]
    exact hclassified.of_config failure
  case of_sent =>
    intro hsent failure
    rw [herror]
    exact hclassified.of_sent (htrace ▸ hsent) failure
  case eq_error_iff =>
    intro hsent failure
    rw [htrace, herror]
    exact hclassified.eq_error_iff (htrace ▸ hsent) failure
  case events_of_error =>
    intro failure
    rw [htrace, herror]
    exact hclassified.events_of_error failure

/-- Failures are classified, for ranking texts, providing an answer and ranking passages alike: a
blank query is refused and nothing is needed to rank nothing; the configuration is found to be wrong
before anything is sent; and once something was sent, a call fails exactly as the first batch does
whose exchange goes wrong, and without results. -/
theorem classified_of_calls [Url.Idna] (hchannel : channel.FailsRemotely)
    (hclient : client.Connected) (query : String) (state : σ) :
    (∀ texts topN, Classified client query texts topN []
      ((rank channel client query texts topN).run state)) ∧
    (∀ documents topN, Classified client query documents (topN.getD client.service.topN)
      { provider := providerName, model := client.service.model, items := [] }
      ((provide channel client query documents topN).run state)) ∧
    ∀ (α : Type) [Passage α] (passages : List α),
      Classified client query (passages.map Passage.content) client.service.topN []
        ((rerank channel client query passages).run state) := by
  refine ⟨fun texts topN => classified_rank hchannel client query texts topN state, ?_, ?_⟩
  · intro documents topN
    rw [provide, Action.run_bind_pure]
    apply (classified_rank hchannel client query documents _ state).of_same
    · rfl
    · intro failure
      rw [Run.result_map]
      exact except_map_eq_error_iff
    · intro _ hnothing
      rw [Run.result_map, hnothing]
      rfl
  · intro α _ passages
    apply (classified_rank hchannel client query _ _ state).of_same
    · exact trace_rerank channel client query passages state
    · exact fun failure => result_rerank_eq_error_iff hclient.maxBatchSize_pos
    · intro htexts hnothing
      rw [run_rerank]
      dsimp only
      rw [hnothing]
      rfl

/-- Three passages in two batches; the reply to the second ranks its only passage twice. -/
theorem classified_of_calls_hostedInPairs :
    let replies := [jsonReply "\x7b\"rankings\": [[1, 2], [0, 1]]\x7d",
      jsonReply "\x7b\"rankings\": [[0, 3], [0, 1]]\x7d"]
    let run := (rank Channel.scripted hostedInPairs "q" ["a", "b", "c"] 2).run replies
    run.result = .error (.reply (.repeatedIndex 0)) ∧
      Classified hostedInPairs "q" ["a", "b", "c"] 2 [] run := by
  intro replies run
  have hresult : run.result = .error (.reply (.repeatedIndex 0)) := by decide +kernel
  exact ⟨hresult,
    (classified_of_calls Channel.failsRemotely_scripted connected_hostedInPairs "q" replies).1 _ _⟩

end Reranker

end Rerank
