import Rerank.Proofs.Ranking.Soundness

/-!
# Passages and documents

Passages may be ranked in two ways: as passages of the caller, which are returned with their scores,
or as documents, to which an answer refers by their positions.  The two do and see the same, and the
returned passages are those that the answer refers to.
-/

namespace Rerank

/-- The entry is the passage that the item refers to, with the score of the item. -/
structure Scored.RefersTo {α : Type} (passages : List α) (entry : Scored α) (item : Item) :
    Prop where
  index : entry.index = item.index
  score : entry.score.bits = item.score.bits
  passage : passages[item.index]? = some entry.passage

/-- The entries are the passages that the items of the client's answer refer to, one by one. -/
structure Answer.Names {α : Type} (client : Reranker) (passages : List α)
    (scored : List (Scored α)) (answer : Answer) : Prop where
  provider : answer.provider = Reranker.providerName
  model : answer.model = client.service.model
  entries : List.Forall₂ (Scored.RefersTo passages) scored answer.items

/-- Entries with known passages are what their own items refer to. -/
theorem Scored.forall₂_refersTo {α : Type} {passages : List α} {scored : List (Scored α)}
    (hfound : ∀ entry ∈ scored, passages[entry.index]? = some entry.passage) :
    List.Forall₂ (RefersTo passages) scored (scored.map item) := by
  refine List.forall₂_map_right_iff.2 (List.forall₂_same.2 fun entry hentry => ?_)
  exact ⟨rfl, rfl, hfound entry hentry⟩

namespace Reranker

variable {σ α : Type}

/-- To provide an answer is to rank documents and to label what comes of it. -/
theorem run_provide [Url.Idna] (channel : Channel σ) (client : Reranker) (query : String)
    (documents : List String) (topN : Option Nat) (state : σ) :
    (provide channel client query documents topN).run state =
      ((rank channel client query documents (topN.getD client.service.topN)).run state).map
        fun items => { provider := providerName, model := client.service.model, items } :=
  Action.run_bind_pure _ _ state

/-- Ranking passages and providing an answer for their contents, with the limit that the client has
anyway, send the same requests, show the same observations and leave the same state.  They fail
alike, or the passages that are returned are those that the answer refers to, in its order. -/
theorem rerank_agrees_with_provide [Url.Idna] (channel : Channel σ) {client : Reranker}
    (hclient : client.Connected) [Passage α] (query : String) (passages : List α)
    {topN : Option Nat} (htopN : topN = none ∨ topN = some client.service.topN) (state : σ) :
    let reranking := (rerank channel client query passages).run state
    let providing :=
      (provide channel client query (passages.map Passage.content) topN).run state
    reranking.trace = providing.trace ∧ reranking.state = providing.state ∧
      Agree (Answer.Names client passages) reranking.result providing.result := by
  have hlimit : topN.getD client.service.topN = client.service.topN := by
    rcases htopN with rfl | rfl <;> rfl
  dsimp only
  rw [run_provide, hlimit]
  refine ⟨trace_rerank channel client query passages state, by rw [run_rerank]; rfl, ?_⟩
  rw [Run.result_map]
  cases hrank : ((rank channel client query (passages.map Passage.content)
      client.service.topN).run state).result with
  | error failure =>
    rw [result_rerank_of_error hrank]
    exact .error failure
  | ok items =>
    obtain ⟨scored, hscored, rfl, hfound⟩ := result_rerank_of_ok hclient.maxBatchSize_pos hrank
    rw [hscored]
    exact .ok ⟨rfl, rfl, Scored.forall₂_refersTo hfound⟩

/-- The request of `hostedInPairs` to score passages for the query `q`. -/
def hostedRequest (passages : List String) : Request where
  url := hostedInPairs.service.baseUrl
  headers := ⟨some "Bearer key"⟩
  payload := some { model := Catalog.defaultModel, truncation := none, query := "q", passages }

/-- Three texts in two batches, the first two of which are the same. -/
theorem run_rank_of_sameTexts :
    let run := (rank Channel.scripted hostedInPairs "q" ["text", "text", "page: 1\n\ntext"] 2).run
      pairReplies
    run.result = .ok [⟨2, ⟨0x40400000⟩⟩, ⟨1, ⟨0x40000000⟩⟩] ∧ run.state = [] ∧
      requestsOf run.trace =
        [hostedRequest ["text", "text"], hostedRequest ["page: 1\n\ntext"]] := by
  have hscored : let scored := (scoreBatches Channel.scripted hostedInPairs
        hostedInPairs.service.baseUrl ⟨some "Bearer key"⟩ "q" 2
        (Batch.split 2 ["text", "text", "page: 1\n\ntext"])).run pairReplies
      scored.result = .ok [⟨1, ⟨0x40000000⟩⟩, ⟨0, ⟨0x3f800000⟩⟩, ⟨2, ⟨0x40400000⟩⟩] ∧
        scored.state = [] ∧
        requestsOf scored.trace =
          [hostedRequest ["text", "text"], hostedRequest ["page: 1\n\ntext"]] := by
    decide +kernel
  have hmerge : merge 3 2 2 [⟨1, ⟨0x40000000⟩⟩, ⟨0, ⟨0x3f800000⟩⟩, ⟨2, ⟨0x40400000⟩⟩] =
      [⟨2, ⟨0x40400000⟩⟩, ⟨1, ⟨0x40000000⟩⟩] := by
    cbv
  obtain ⟨hresult, hstate, hrequests⟩ := hscored
  have hquery : Text.isBlank "q" = false := by decide +kernel
  refine ⟨?_, ?_, ?_⟩
  · rw [← hmerge]
    exact result_rank_of_scored hquery (by simp) addressing_hostedInPairs hresult
  · rw [run_rank_of_addressed Channel.scripted hostedInPairs 2 pairReplies hquery (by simp)
      addressing_hostedInPairs]
    exact hstate
  · rw [run_rank_of_addressed Channel.scripted hostedInPairs 2 pairReplies hquery (by simp)
      addressing_hostedInPairs, ← hrequests]
    simp
    rfl

/-- Two chunks with the same text, and one with metadata, of which the better two are returned. -/
theorem rerank_agrees_with_provide_hostedInPairs :
    let chunks := [Chunk.new "a" "text", Chunk.new "b" "text",
      (Chunk.new "c" "text").withMetadata "page" "1"]
    let contents := ["text", "text", "page: 1\n\ntext"]
    let reranking := (rerank Channel.scripted hostedInPairs "q" chunks).run pairReplies
    let providing := (provide Channel.scripted hostedInPairs "q" contents none).run pairReplies
    hostedInPairs.Connected ∧
      reranking.result = .ok [⟨2, (Chunk.new "c" "text").withMetadata "page" "1", ⟨0x40400000⟩⟩,
        ⟨1, Chunk.new "b" "text", ⟨0x40000000⟩⟩] ∧
      providing.result = .ok ⟨"nvidia", Catalog.defaultModel,
        [⟨2, ⟨0x40400000⟩⟩, ⟨1, ⟨0x40000000⟩⟩]⟩ ∧
      requestsOf reranking.trace =
        [hostedRequest ["text", "text"], hostedRequest ["page: 1\n\ntext"]] ∧
      reranking.state = [] ∧ reranking.trace = providing.trace ∧
      reranking.state = providing.state ∧
      Agree (Answer.Names hostedInPairs chunks) reranking.result providing.result := by
  intro chunks contents reranking providing
  have hcontents : chunks.map Passage.content = contents := by decide +kernel
  have hagree := rerank_agrees_with_provide Channel.scripted connected_hostedInPairs "q" chunks
    (.inl rfl) pairReplies
  have hreranking := run_rerank Channel.scripted hostedInPairs "q" chunks pairReplies
  have hproviding := run_provide Channel.scripted hostedInPairs "q" contents none pairReplies
  rw [hcontents] at hagree hreranking
  obtain ⟨hitems, hstate, hrequests⟩ := run_rank_of_sameTexts
  refine ⟨connected_hostedInPairs, ?_, ?_, ?_, ?_, hagree⟩
  · calc reranking.result
      _ = (Except.ok [⟨2, ⟨0x40400000⟩⟩, ⟨1, ⟨0x40000000⟩⟩]).bind
            fun items => items.mapM (passageOf chunks) := by
        rw [← hitems]
        exact congrArg Run.result hreranking
      _ = _ := rfl
  · calc providing.result
      _ = (Except.ok [⟨2, ⟨0x40400000⟩⟩, ⟨1, ⟨0x40000000⟩⟩]).map
            (Answer.mk providerName hostedInPairs.service.model) := by
        rw [← hitems]
        exact congrArg Run.result hproviding
      _ = _ := rfl
  · exact (congrArg (requestsOf ∘ Run.trace) hreranking).trans hrequests
  · exact (congrArg Run.state hreranking).trans hstate

end Reranker

end Rerank
