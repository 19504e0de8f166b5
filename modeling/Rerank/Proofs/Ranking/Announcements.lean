import Rerank.Proofs.Ranking.Provider
import Rerank.Session

/-!
# What calls announce

A call announces that it starts before anything else is seen of it.  If it succeeds and there was
something to rank, it announces the items that it returns after its last request; otherwise it
announces nothing more.  So the announcements of a session tell how many of its calls ranked
something.
-/

namespace Rerank

namespace Event

def isStarted : Event → Bool
  | started _ _ _ _ => true
  | ended _ _ => false

def isEnded : Event → Bool
  | started _ _ _ _ => false
  | ended _ _ => true

end Event

namespace Reranker

/-- What a call announces; `items` tells the items of what it returns. -/
structure Bracketed {σ β : Type} (client : Reranker) (query : String) (texts : List String)
    (topN : Nat) (items : β → List Item) (run : Run σ β) : Prop where
  /-- The sink is told of the start before anything else is seen. -/
  opens : client.opening query texts topN <+: run.trace
  events_of_ok : texts ≠ [] → ∀ b, run.result = .ok b →
    eventsOf run.trace = [.started query texts topN client.service.model,
      .ended client.service.model (items b)]
  /-- The sink is told of the end after everything else is seen. -/
  closes : texts ≠ [] → ∀ b, run.result = .ok b →
    ∃ before, run.trace = before ++ client.closing (.ok (items b)) ∧
      requestsOf before = requestsOf run.trace
  events_of_error : ∀ failure, run.result = .error failure →
    eventsOf run.trace = [.started query texts topN client.service.model]
  /-- Without anything to rank there is nothing to be told but the start. -/
  events_of_nil : texts = [] →
    eventsOf run.trace = [.started query texts topN client.service.model]
  items_of_nil : texts = [] → ∀ b, run.result = .ok b → items b = []

variable {σ : Type} {channel : Channel σ} {client : Reranker} {query : String}
  {texts : List String} {topN : Nat} {state : σ}

theorem bracketed_rank [Url.Idna] (channel : Channel σ) (client : Reranker) (query : String)
    (texts : List String) (topN : Nat) (state : σ) :
    Bracketed client query texts topN id ((rank channel client query texts topN).run state) := by
  obtain ⟨read, next, scoring, hscoring, hrun⟩ := exists_run_rank channel client state query texts
  have hopening : eventsOf (client.opening query texts topN) =
      [.started query texts topN client.service.model] := eventsOf_deliver _ _
  -- What is seen is the opening, the scoring, which announces nothing, and maybe the closing.
  rw [hrun]
  generalize hresult : read.map (fun replies =>
    merge texts.length client.service.maxBatchSize topN
      (Batch.collect (Batch.split client.service.maxBatchSize texts)
        (replies.map (List.take topN)))) = result
  constructor
  case opens =>
    rw [List.append_assoc]
    exact List.prefix_append _ _
  case events_of_ok =>
    rintro htexts items rfl
    have hclosing : eventsOf (client.closing (.ok items)) =
        [.ended client.service.model items] := eventsOf_deliver _ _
    rw [if_neg htexts, eventsOf_append, eventsOf_append, hopening, hscoring, hclosing]
    rfl
  case closes =>
    rintro htexts items rfl
    rw [if_neg htexts]
    exact ⟨_, rfl, by simp⟩
  case events_of_error =>
    rintro failure rfl
    simp [closing, hopening, hscoring]
  case events_of_nil =>
    rintro rfl
    simp [hopening, hscoring]
  case items_of_nil =>
    rintro rfl items rfl
    obtain ⟨replies, -, hitems⟩ := except_map_eq_ok_iff.1 hresult
    simpa [merge, Batch.split] using hitems.symm

/-- Another call that sees the same, fails alike and returns the same items announces the same. -/
theorem Bracketed.of_same {β γ : Type} {items : β → List Item} {items' : γ → List Item}
    {run : Run σ β} {other : Run σ γ} (hbracketed : Bracketed client query texts topN items run)
    (htrace : other.trace = run.trace)
    (hok : ∀ c, other.result = .ok c → ∃ b, run.result = .ok b ∧ items b = items' c)
    (herror : ∀ failure, other.result = .error failure → run.result = .error failure) :
    Bracketed client query texts topN items' other := by
  constructor
  case opens => exact htrace ▸ hbracketed.opens
  case events_of_ok =>
    intro htexts c hc
    obtain ⟨b, hb, hitems⟩ := hok c hc
    rw [htrace, ← hitems]
    exact hbracketed.events_of_ok htexts b hb
  case closes =>
    intro htexts c hc
    obtain ⟨b, hb, hitems⟩ := hok c hc
    rw [htrace, ← hitems]
    exact hbracketed.closes htexts b hb
  case events_of_error =>
    intro failure hfailure
    rw [htrace]
    exact hbracketed.events_of_error failure (herror failure hfailure)
  case events_of_nil => exact htrace ▸ hbracketed.events_of_nil
  case items_of_nil =>
    intro htexts c hc
    obtain ⟨b, hb, hitems⟩ := hok c hc
    rw [← hitems]
    exact hbracketed.items_of_nil htexts b hb

theorem bracketed_provide [Url.Idna] (channel : Channel σ) (client : Reranker) (query : String)
    (documents : List String) (topN : Option Nat) (state : σ) :
    Bracketed client query documents (topN.getD client.service.topN) Answer.items
      ((provide channel client query documents topN).run state) := by
  rw [run_provide]
  apply (bracketed_rank channel client query documents _ state).of_same
  · rfl
  · intro answer hanswer
    obtain ⟨items, hitems, rfl⟩ := except_map_eq_ok_iff.1 hanswer
    exact ⟨items, hitems, rfl⟩
  · exact fun failure hfailure => except_map_eq_error_iff.1 hfailure

theorem bracketed_rerank [Url.Idna] {α : Type} [Passage α] (channel : Channel σ)
    (hsize : 0 < client.service.maxBatchSize) (query : String) (passages : List α) (state : σ) :
    Bracketed client query (passages.map Passage.content) client.service.topN
      (List.map Scored.item) ((rerank channel client query passages).run state) := by
  apply (bracketed_rank channel client query _ _ state).of_same
  · exact trace_rerank channel client query passages state
  · intro scored hscored
    exact ⟨scored.map Scored.item, result_rank_of_rerank hsize hscored, rfl⟩
  · exact fun failure hfailure => (result_rerank_eq_error_iff hsize).1 hfailure

section Counted

variable {β : Type} {items : β → List Item} {run : Run σ β}

theorem Bracketed.countP_isStarted (hbracketed : Bracketed client query texts topN items run) :
    (eventsOf run.trace).countP Event.isStarted = 1 := by
  by_cases htexts : texts = []
  · rw [hbracketed.events_of_nil htexts]
    rfl
  cases hresult : run.result with
  | error failure =>
    rw [hbracketed.events_of_error failure hresult]
    rfl
  | ok b =>
    rw [hbracketed.events_of_ok htexts b hresult]
    rfl

theorem Bracketed.countP_isEnded (hbracketed : Bracketed client query texts topN items run) :
    (eventsOf run.trace).countP Event.isEnded =
      if !texts.isEmpty && run.result.isOk then 1 else 0 := by
  by_cases htexts : texts = []
  · rw [hbracketed.events_of_nil htexts, htexts]
    rfl
  have hsome : texts.isEmpty = false := by simpa using htexts
  cases hresult : run.result with
  | error failure =>
    rw [hbracketed.events_of_error failure hresult, hsome]
    rfl
  | ok b =>
    rw [hbracketed.events_of_ok htexts b hresult, hsome]
    rfl

end Counted

/-- To tell the models nothing is announced. -/
theorem eventsOf_availableModels [Url.Idna] (channel : Channel σ) (client : Reranker) (state : σ) :
    eventsOf ((availableModels channel client).run state).trace = [] := by
  rw [availableModels]
  split
  · rfl
  · rfl
  · next apiKey _ =>
    rw [Action.run_fetchModels]
    split
    · rfl
    · next request _ =>
      cases (channel.exchange request state).1 <;> rfl

end Reranker

namespace Step

variable {σ : Type}

/-- The texts that a step has ranked, if it has any ranked. -/
def texts? : Step σ → Option (List String)
  | rerank _ (.texts passages) => some (passages.map Passage.content)
  | rerank _ (.chunks passages) => some (passages.map Passage.content)
  | provide _ documents _ => some documents
  | _ => none

/-- Whether the step had something to rank and succeeded. -/
def ranked (step : Step σ) (run : Run σ Outcome) : Bool :=
  step.texts?.any (!·.isEmpty) && run.result.isOk

/-- What the announcements of a step tell of it. -/
structure Told (step : Step σ) (run : Run σ Outcome) : Prop where
  started : (eventsOf run.trace).countP Event.isStarted = if step.texts?.isSome then 1 else 0
  ended : (eventsOf run.trace).countP Event.isEnded = if step.ranked run then 1 else 0

theorem told_of_bracketed {β : Type} {client : Reranker} {query : String} {texts : List String}
    {topN : Nat} {items : β → List Item} {run : Run σ β} {step : Step σ} {f : β → Outcome}
    (htexts : step.texts? = some texts)
    (hbracketed : Reranker.Bracketed client query texts topN items run) :
    step.Told (run.map f) where
  started := by
    rw [Run.trace_map, hbracketed.countP_isStarted, htexts]
    rfl
  ended := by
    have hsame : (run.map f).result.isOk = run.result.isOk := by
      rw [Run.result_map]
      cases run.result <;> rfl
    rw [Run.trace_map, hbracketed.countP_isEnded, ranked, htexts, hsame]
    rfl

theorem told_of_silent {step : Step σ} {run : Run σ Outcome} (htexts : step.texts? = none)
    (hevents : eventsOf run.trace = []) : step.Told run where
  started := by
    rw [hevents, htexts]
    rfl
  ended := by
    rw [hevents, ranked, htexts]
    rfl

theorem told_of_perform [Url.Idna] (channel : Channel σ) {client : Reranker}
    (hsize : 0 < client.service.maxBatchSize) (step : Step σ) (state : σ) :
    step.Told ((step.perform channel client).run state) := by
  cases step with
  | info => exact told_of_silent rfl rfl
  | rerank query passages =>
    cases passages with
    | texts passages =>
      rw [perform, Action.run_map]
      exact told_of_bracketed rfl
        (Reranker.bracketed_rerank channel hsize query passages state)
    | chunks passages =>
      rw [perform, Action.run_map]
      exact told_of_bracketed rfl
        (Reranker.bracketed_rerank channel hsize query passages state)
  | provide query documents topN =>
    rw [perform, Action.run_map]
    exact told_of_bracketed rfl
      (Reranker.bracketed_provide channel client query documents topN state)
  | models =>
    rw [perform, Action.run_map]
    exact told_of_silent rfl (Reranker.eventsOf_availableModels channel client state)
  | setSink sink => exact told_of_silent rfl rfl
  | change f => exact told_of_silent rfl rfl

end Step

namespace Reranker

variable {σ : Type}

theorem forall₂_told_session [Url.Idna] (channel : Channel σ) {client : Reranker}
    (hsize : 0 < client.service.maxBatchSize) (state : σ) (steps : List (Step σ)) :
    List.Forall₂ Step.Told steps (session channel client state steps) := by
  induction steps generalizing client state with
  | nil => exact .nil
  | cons step rest ih =>
    have hnext : 0 < (step.next client).service.maxBatchSize := step.service_next client ▸ hsize
    exact .cons (step.told_of_perform channel hsize state) (ih hnext _)

end Reranker

/-- If the announcements tell of each step of a session, counting them counts the steps. -/
theorem countP_events_of_told {σ : Type} {steps : List (Step σ)} {runs : List (Run σ Outcome)}
    (htold : List.Forall₂ Step.Told steps runs) :
    (runs.flatMap fun run => eventsOf run.trace).countP Event.isStarted =
        steps.countP (·.texts?.isSome) ∧
      (runs.flatMap fun run => eventsOf run.trace).countP Event.isEnded =
        (steps.zip runs).countP fun (step, run) => step.ranked run := by
  induction htold with
  | nil => exact ⟨rfl, rfl⟩
  | cons hstep _ ih =>
    obtain ⟨hstarted, hended⟩ := ih
    constructor
    · rw [List.flatMap_cons, List.countP_append, hstep.started, hstarted, List.countP_cons,
        Nat.add_comm]
    · rw [List.flatMap_cons, List.countP_append, hstep.ended, hended, List.zip_cons_cons,
        List.countP_cons, Nat.add_comm]

namespace Reranker

/-- Announcements bracket every call that has something to rank, for ranking texts, providing an
answer and ranking passages alike, and nothing is announced of the end of any other.  So a session
announces as many starts as it has calls, and as many ends as it has calls that had something to
rank and succeeded. -/
theorem bracketed_of_calls [Url.Idna] {σ : Type} (channel : Channel σ) {client : Reranker}
    (hclient : client.Connected) (state : σ) :
    (∀ query texts topN, Bracketed client query texts topN id
      ((rank channel client query texts topN).run state)) ∧
    (∀ query documents topN, Bracketed client query documents (topN.getD client.service.topN)
      Answer.items ((provide channel client query documents topN).run state)) ∧
    (∀ (α : Type) [Passage α] (query : String) (passages : List α),
      Bracketed client query (passages.map Passage.content) client.service.topN
        (List.map Scored.item) ((rerank channel client query passages).run state)) ∧
    ∀ steps : List (Step σ),
      let runs := session channel client state steps
      (runs.flatMap fun run => eventsOf run.trace).countP Event.isStarted =
          steps.countP (·.texts?.isSome) ∧
        (runs.flatMap fun run => eventsOf run.trace).countP Event.isEnded =
          (steps.zip runs).countP fun (step, run) => step.ranked run := by
  have hsize := hclient.maxBatchSize_pos
  refine ⟨?_, ?_, ?_, ?_⟩
  · exact fun query texts topN => bracketed_rank channel client query texts topN state
  · exact fun query documents topN => bracketed_provide channel client query documents topN state
  · exact fun α _ query passages => bracketed_rerank channel hsize query passages state
  · exact fun steps => countP_events_of_told (forall₂_told_session channel hsize state steps)

/-- Two calls are ended of four: one has a blank query, and one has nothing to rank. -/
theorem bracketed_of_calls_hostedInPairs :
    let steps : List (Step (List Response)) :=
      [.provide "q" ["a", "b", "c"] none, .rerank " " (.texts ["a"]), .rerank "q" (.chunks []),
        .change fun _ => pairReplies, .provide "q" ["a", "b", "c"] (some 0)]
    let runs := session Channel.scripted hostedInPairs pairReplies steps
    hostedInPairs.Connected ∧
      (runs.flatMap fun run => eventsOf run.trace).countP Event.isStarted = 4 ∧
      (runs.flatMap fun run => eventsOf run.trace).countP Event.isEnded = 2 := by
  intro steps runs
  obtain ⟨-, -, -, hsession⟩ :=
    bracketed_of_calls Channel.scripted connected_hostedInPairs pairReplies
  obtain ⟨hstarted, hended⟩ := hsession steps
  refine ⟨connected_hostedInPairs, hstarted, ?_⟩
  rw [hended]
  decide +kernel

/-- Without passages a call succeeds, and its end is not announced. -/
theorem unended_of_no_passages :
    let run := (rank Channel.scripted hostedInPairs "q" [] 2).run []
    hostedInPairs.Connected ∧ run.result = .ok [] ∧
      eventsOf run.trace = [.started "q" [] 2 hostedInPairs.service.model] ∧
      (eventsOf run.trace).countP Event.isEnded ≠ 1 :=
  ⟨connected_hostedInPairs, by decide +kernel, by decide +kernel, by decide +kernel⟩

end Reranker

end Rerank
