import Rerank.Proofs.Run
import Rerank.Session

/-!
# Runs with different keys

Two runs with different keys are alike if they end alike, leave the same state, and show the same
observations but for the credentials of the requests.  Actions whose runs are alike may be sequenced
as long as what follows does not tell apart the values that it is given.
-/

namespace Rerank

/-- The headers of a request made with a key. -/
def Headers.bearer (key : String) : Headers where
  authorization := some ("Bearer " ++ key)

/-- A key that is not blank and that a header may hold. -/
structure Headers.Usable (key : String) : Prop where
  nonBlank : Text.isBlank key = false
  accepted : ∃ headers, Headers.forKey (some key) = .ok headers

theorem Headers.Usable.forKey {key : String} (hkey : Usable key) :
    Headers.forKey (some key) = .ok (bearer key) := by
  obtain ⟨headers, hheaders⟩ := hkey.accepted
  rw [Headers.forKey] at hheaders ⊢
  split at hheaders
  · next hallowed => rw [if_pos hallowed, bearer]
  · contradiction

/-- The channel answers a request as it would with any other headers. -/
def Channel.IgnoresHeaders {σ : Type} (channel : Channel σ) : Prop :=
  ∀ (url : Url) (payload : Option Payload) (headers other : Headers) (state : σ),
    channel.exchange { url, headers, payload } state =
      channel.exchange { url, headers := other, payload } state

theorem Channel.ignoresHeaders_scripted : scripted.IgnoresHeaders :=
  fun _ _ _ _ _ => rfl

/-- Observations that are the same, or requests that differ in the key that they carry. -/
inductive Observation.Alike (key other : String) : Observation → Observation → Prop where
  | request (url : Url) (payload : Option Payload) :
    Alike key other (.request { url, headers := .bearer key, payload })
      (.request { url, headers := .bearer other, payload })
  | same {observation} (hobservation : requestsOf [observation] = []) :
    Alike key other observation observation

/-- Runs that end alike, in the same state, after observations that are alike one by one. -/
structure Run.Alike {σ α β : Type} (key other : String) (R : α → β → Prop) (first : Run σ α)
    (second : Run σ β) : Prop where
  result : Agree R first.result second.result
  state : first.state = second.state
  trace : List.Forall₂ (Observation.Alike key other) first.trace second.trace

theorem Run.Alike.map {σ α β γ δ : Type} {key other : String} {R : α → β → Prop} {S : γ → δ → Prop}
    {f : α → γ} {g : β → δ} {first : Run σ α} {second : Run σ β}
    (hrun : Run.Alike key other R first second) (hmap : ∀ a b, R a b → S (f a) (g b)) :
    Run.Alike key other S (first.map f) (second.map g) :=
  ⟨hrun.result.map hmap, hrun.state, hrun.trace⟩

namespace Action

variable {σ α β γ δ : Type} {key other : String} {R : α → β → Prop} {S : γ → δ → Prop}

/-- Actions whose runs from the same state are alike. -/
def Alike (key other : String) (R : α → β → Prop) (first : Action σ α) (second : Action σ β) :
    Prop :=
  ∀ state, Run.Alike key other R (first.run state) (second.run state)

theorem alike_ofExcept {first : Except Failure α} {second : Except Failure β}
    (hresult : Agree R first second) :
    Alike key other R (ofExcept first : Action σ α) (ofExcept second) :=
  fun _ => ⟨hresult, rfl, .nil⟩

theorem alike_pure {a : α} {b : β} (hrelated : R a b) :
    Alike key other R (Pure.pure a : Action σ α) (Pure.pure b) :=
  alike_ofExcept (.ok hrelated)

theorem alike_fail (failure : Failure) :
    Alike key other R (fail failure : Action σ α) (fail failure : Action σ β) :=
  alike_ofExcept (.error failure)

theorem alike_observe {trace : List Observation} (htrace : requestsOf trace = []) :
    Alike key other Eq (observe trace : Action σ Unit) (observe trace) := by
  intro state
  refine ⟨.refl _, rfl, ?_⟩
  change List.Forall₂ _ trace trace
  apply List.forall₂_same.2
  intro observation hmem
  apply Observation.Alike.same
  obtain ⟨before, after, hsplit⟩ := List.append_of_mem hmem
  rw [hsplit, ← List.singleton_append, requestsOf_append, requestsOf_append] at htrace
  exact (List.append_eq_nil_iff.1 (List.append_eq_nil_iff.1 htrace).2).1

theorem alike_log (records : List LogRecord) :
    Alike key other Eq (log records : Action σ Unit) (log records) :=
  alike_observe (requestsOf_logs records)

theorem alike_announce (sink : EventSink) (event : Event) :
    Alike key other Eq (announce sink event : Action σ Unit) (announce sink event) :=
  alike_observe (requestsOf_deliver sink event)

/-- A channel that does not look at the headers gives the same reply to both. -/
theorem alike_send {channel : Channel σ} (hchannel : channel.IgnoresHeaders) (url : Url)
    (payload : Option Payload) :
    Alike key other Eq (channel.send { url, headers := .bearer key, payload })
      (channel.send { url, headers := .bearer other, payload }) := by
  intro state
  rw [run_send, run_send, hchannel url payload (.bearer key) (.bearer other) state]
  generalize channel.exchange { url, headers := .bearer other, payload } state = exchanged
  obtain ⟨outcome, next⟩ := exchanged
  refine ⟨.refl _, rfl, .cons (.request url payload) (.cons ?_ .nil)⟩
  cases outcome <;> exact .same rfl

namespace Alike

theorem bind {first : Action σ α} {second : Action σ β} {next : α → Action σ γ}
    {next' : β → Action σ δ} (hfirst : Alike key other R first second)
    (hnext : ∀ a b, R a b → Alike key other S (next a) (next' b)) :
    Alike key other S (first >>= next) (second >>= next') := by
  intro state
  have hrun := hfirst state
  rw [run_bind, run_bind]
  generalize first.run state = run at hrun ⊢
  generalize second.run state = run' at hrun ⊢
  obtain ⟨result, left, trace⟩ := run
  obtain ⟨result', left', trace'⟩ := run'
  obtain ⟨hresult, rfl, htrace⟩ := hrun
  cases hresult with
  | error failure => exact ⟨.error failure, rfl, htrace⟩
  | ok hrelated =>
    have hafter := hnext _ _ hrelated left
    exact ⟨hafter.result, hafter.state, List.rel_append htrace hafter.trace⟩

theorem map {first : Action σ α} {second : Action σ β} {f : α → γ} {g : β → δ}
    (haction : Alike key other R first second) (hmap : ∀ a b, R a b → S (f a) (g b)) :
    Alike key other S (f <$> first) (g <$> second) := by
  intro state
  rw [run_map, run_map]
  exact (haction state).map hmap

end Alike

end Action

end Rerank
