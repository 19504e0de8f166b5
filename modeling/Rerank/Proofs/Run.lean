import Mathlib
import Rerank.Action
import Rerank.Reply.Reading

/-!
# Runs and what is seen in them

The run of a sequence is the run of its second part, with the observations of the first part before
its own.  What came of the requests of a run is read off its trace, as are the rankings in the
replies that it got.
-/

namespace Rerank

/-- What came of the requests among observations. -/
def outcomesOf (trace : List Observation) : List (Except Failure Response) :=
  trace.filterMap fun
    | .reply response => some (.ok response)
    | .noReply failure => some (.error failure)
    | _ => none

/-- The rankings in the replies among observations, reply by reply.  A reply that cannot be read has
none. -/
def rankingsOf (trace : List Observation) : List (List Ranking) :=
  (repliesOf trace).map fun reply => (parseRankings reply.body).toOption.getD []

@[simp]
theorem requestsOf_append (first second : List Observation) :
    requestsOf (first ++ second) = requestsOf first ++ requestsOf second :=
  List.filterMap_append

@[simp]
theorem outcomesOf_append (first second : List Observation) :
    outcomesOf (first ++ second) = outcomesOf first ++ outcomesOf second :=
  List.filterMap_append

@[simp]
theorem eventsOf_append (first second : List Observation) :
    eventsOf (first ++ second) = eventsOf first ++ eventsOf second :=
  List.filterMap_append

@[simp]
theorem logsOf_append (first second : List Observation) :
    logsOf (first ++ second) = logsOf first ++ logsOf second :=
  List.filterMap_append

/-- The replies are what came of the requests that got one. -/
theorem repliesOf_eq_filterMap (trace : List Observation) :
    repliesOf trace = (outcomesOf trace).filterMap Except.toOption := by
  rw [repliesOf, outcomesOf, List.filterMap_filterMap]
  congr 1
  funext observation
  cases observation <;> rfl

@[simp]
theorem requestsOf_logs (records : List LogRecord) : requestsOf (records.map .log) = [] := by
  simp [requestsOf]

@[simp]
theorem outcomesOf_logs (records : List LogRecord) : outcomesOf (records.map .log) = [] := by
  simp [outcomesOf]

@[simp]
theorem eventsOf_logs (records : List LogRecord) : eventsOf (records.map .log) = [] := by
  simp [eventsOf]

@[simp]
theorem logsOf_logs (records : List LogRecord) : logsOf (records.map .log) = records := by
  simp [logsOf]

/-- Delivering an event sends no request. -/
@[simp]
theorem requestsOf_deliver (sink : EventSink) (event : Event) :
    requestsOf (sink.deliver event) = [] := by
  rw [EventSink.deliver, requestsOf_append, requestsOf_logs, List.append_nil]
  split <;> rfl

@[simp]
theorem outcomesOf_deliver (sink : EventSink) (event : Event) :
    outcomesOf (sink.deliver event) = [] := by
  rw [EventSink.deliver, outcomesOf_append, outcomesOf_logs, List.append_nil]
  split <;> rfl

@[simp]
theorem eventsOf_deliver (sink : EventSink) (event : Event) :
    eventsOf (sink.deliver event) = [event] := by
  rw [EventSink.deliver, eventsOf_append, eventsOf_logs, List.append_nil]
  split <;> rfl

/-- What is seen of an exchange is one request and what came of it. -/
@[simp]
theorem requestsOf_exchange (request : Request) (outcome : Except Failure Response) :
    requestsOf [.request request, Channel.observed outcome] = [request] := by
  cases outcome <;> rfl

@[simp]
theorem outcomesOf_exchange (request : Request) (outcome : Except Failure Response) :
    outcomesOf [.request request, Channel.observed outcome] = [outcome] := by
  cases outcome <;> rfl

@[simp]
theorem logsOf_exchange (request : Request) (outcome : Except Failure Response) :
    logsOf [.request request, Channel.observed outcome] = [] := by
  cases outcome <;> rfl

/-- Results that are the same failure or related values. -/
inductive Agree {α β : Type} (R : α → β → Prop) : Except Failure α → Except Failure β → Prop where
  | ok {a b} (hrelated : R a b) : Agree R (.ok a) (.ok b)
  | error (failure : Failure) : Agree R (.error failure) (.error failure)

namespace Agree

variable {α β γ δ : Type} {R : α → β → Prop} {S : γ → δ → Prop}

theorem refl (result : Except Failure α) : Agree Eq result result := by
  cases result with
  | ok a => exact .ok rfl
  | error failure => exact .error failure

theorem map {f : α → γ} {g : β → δ} {result : Except Failure α} {other : Except Failure β}
    (hresult : Agree R result other) (hmap : ∀ a b, R a b → S (f a) (g b)) :
    Agree S (result.map f) (other.map g) := by
  cases hresult with
  | ok hrelated => exact .ok (hmap _ _ hrelated)
  | error failure => exact .error failure

end Agree

namespace Run

variable {σ α β : Type}

/-- The run with observations before its own. -/
def after (before : List Observation) (run : Run σ α) : Run σ α :=
  { run with trace := before ++ run.trace }

/-- The run with a function applied to what it gives. -/
def map (f : α → β) (run : Run σ α) : Run σ β :=
  { run with result := run.result.map f }

@[simp]
theorem result_map (f : α → β) (run : Run σ α) : (run.map f).result = run.result.map f := rfl

@[simp]
theorem trace_map (f : α → β) (run : Run σ α) : (run.map f).trace = run.trace := rfl

end Run

namespace Action

variable {σ α β : Type}

theorem run_bind (action : Action σ α) (next : α → Action σ β) (state : σ) :
    (action >>= next).run state =
      match (action.run state).result with
      | .ok a => ((next a).run (action.run state).state).after (action.run state).trace
      | .error failure => ⟨.error failure, (action.run state).state, (action.run state).trace⟩ := by
  cases hresult : (action.run state).result with
  | ok a => exact run_bind_of_ok hresult
  | error failure => exact run_bind_of_error hresult

/-- A sequence succeeds if both of its parts do. -/
theorem result_bind_eq_ok {action : Action σ α} {next : α → Action σ β} {state : σ} {b : β} :
    ((action >>= next).run state).result = .ok b ↔
      ∃ a, (action.run state).result = .ok a ∧
        ((next a).run (action.run state).state).result = .ok b := by
  rw [run_bind]
  cases (action.run state).result <;> simp [Run.after]

/-- What is done with the value of an action does not change its run. -/
theorem run_bind_pure (action : Action σ α) (f : α → β) (state : σ) :
    (action >>= fun a => Pure.pure (f a)).run state = (action.run state).map f := by
  rw [run_bind]
  generalize action.run state = run
  obtain ⟨result, next, trace⟩ := run
  cases result <;> simp [Run.after, Run.map, Except.map]

theorem run_map (f : α → β) (action : Action σ α) (state : σ) :
    (f <$> action).run state = (action.run state).map f :=
  run_bind_pure action f state

@[simp]
theorem run_ofExcept_ok_bind (a : α) (next : α → Action σ β) (state : σ) :
    (ofExcept (.ok a) >>= next).run state = (next a).run state := rfl

@[simp]
theorem run_ofExcept_error_bind (failure : Failure) (next : α → Action σ β) (state : σ) :
    (ofExcept (.error failure) >>= next).run state = ⟨.error failure, state, []⟩ := rfl

@[simp]
theorem run_announce_bind (sink : EventSink) (event : Event) (next : Unit → Action σ β)
    (state : σ) :
    (announce sink event >>= next).run state = ((next ()).run state).after (sink.deliver event) :=
  rfl

@[simp]
theorem run_log_bind (records : List LogRecord) (next : Unit → Action σ β) (state : σ) :
    (log records >>= next).run state = ((next ()).run state).after (records.map .log) := rfl

theorem run_send (channel : Channel σ) (request : Request) (state : σ) :
    (channel.send request).run state =
      { result := (channel.exchange request state).1
        state := (channel.exchange request state).2
        trace := [.request request, Channel.observed (channel.exchange request state).1] } := rfl

/-- A request is seen with what came of it; without a reply the sequence ends. -/
theorem run_send_bind (channel : Channel σ) (request : Request) (next : Response → Action σ β)
    (state : σ) :
    (channel.send request >>= next).run state =
      match (channel.exchange request state).1 with
      | .ok response =>
        ((next response).run (channel.exchange request state).2).after
          [.request request, .reply response]
      | .error failure =>
        ⟨.error failure, (channel.exchange request state).2,
          [.request request, .noReply failure]⟩ := by
  rw [run_bind]
  cases hexchange : channel.exchange request state with
  | mk outcome next =>
    cases outcome <;> simp [Channel.send, run, hexchange, Channel.observed]

end Action

end Rerank
