import Rerank.Observation

/-!
# Actions

An action may fail, changes the state of the channel that it talks over, and leaves a trace of what
was observed.  The trace of a failed action is kept: it ends where the action failed.
-/

namespace Rerank

/-- What came of an action. -/
structure Run (σ α : Type) where
  result : Except Failure α
  state : σ
  trace : List Observation

/-- An action over a channel with states `σ`. -/
def Action (σ α : Type) :=
  σ → Run σ α

namespace Action

variable {σ α β : Type}

def run (action : Action σ α) (state : σ) : Run σ α :=
  action state

/-- The action that gives a value and nothing else. -/
def pure (a : α) : Action σ α :=
  fun state => ⟨.ok a, state, []⟩

def fail (failure : Failure) : Action σ α :=
  fun state => ⟨.error failure, state, []⟩

/-- Runs an action and, if it does not fail, the one that its value gives. -/
def bind (action : Action σ α) (next : α → Action σ β) : Action σ β :=
  fun state =>
    let first := action state
    match first.result with
    | .error failure => ⟨.error failure, first.state, first.trace⟩
    | .ok a =>
      let second := next a first.state
      ⟨second.result, second.state, first.trace ++ second.trace⟩

instance : Monad (Action σ) where
  pure := Action.pure
  bind := Action.bind

@[simp]
theorem run_pure (a : α) (state : σ) : (Pure.pure a : Action σ α).run state = ⟨.ok a, state, []⟩ :=
  rfl

@[simp]
theorem run_fail (failure : Failure) (state : σ) :
    (fail failure : Action σ α).run state = ⟨.error failure, state, []⟩ :=
  rfl

/-- An action that fails ends a sequence. -/
theorem run_bind_of_error {action : Action σ α} {next : α → Action σ β} {state : σ}
    {failure : Failure} (hfirst : (action.run state).result = .error failure) :
    (action >>= next).run state =
      ⟨.error failure, (action.run state).state, (action.run state).trace⟩ := by
  show bind action next state = _
  simp only [run] at hfirst ⊢
  simp only [bind, hfirst]

/-- After an action that does not fail, the next one runs from the state that it left, and the
traces follow one another. -/
theorem run_bind_of_ok {action : Action σ α} {next : α → Action σ β} {state : σ} {a : α}
    (hfirst : (action.run state).result = .ok a) :
    (action >>= next).run state =
      ⟨((next a).run (action.run state).state).result,
        ((next a).run (action.run state).state).state,
        (action.run state).trace ++ ((next a).run (action.run state).state).trace⟩ := by
  show bind action next state = _
  simp only [run] at hfirst ⊢
  simp only [bind, hfirst]

/-- The action with a result that is known. -/
def ofExcept (result : Except Failure α) : Action σ α :=
  fun state => ⟨result, state, []⟩

/-- The action that only leaves observations. -/
def observe (trace : List Observation) : Action σ Unit :=
  fun state => ⟨.ok (), state, trace⟩

def log (records : List LogRecord) : Action σ Unit :=
  observe (records.map .log)

def announce (sink : EventSink) (event : Event) : Action σ Unit :=
  observe (sink.deliver event)

end Action

/-- A way of having requests answered, which may depend on a state. -/
structure Channel (σ : Type) where
  exchange : Request → σ → Except Failure Response × σ

namespace Channel

variable {σ : Type}

/-- What is observed of the result of a request. -/
def observed : Except Failure Response → Observation
  | .ok response => .reply response
  | .error failure => .noReply failure

/-- Sends a request and waits for the reply. -/
def send (channel : Channel σ) (request : Request) : Action σ Response :=
  fun state =>
    let (result, state) := channel.exchange request state
    ⟨result, state, [.request request, observed result]⟩

/-- Gives the replies of a list, one for each request. -/
def scripted : Channel (List Response) where
  exchange _ replies :=
    match replies with
    | [] => (.error (.reply .noReplyLeft), [])
    | reply :: rest => (.ok reply, rest)

/-- Whether requests can be made with a url of the scheme. -/
def isSupported (scheme : String) : Bool :=
  scheme == "http" || scheme == "https"

/-- The url of a request as it is made: user name and password are taken out of it, for the headers,
if they are text and there is one of them. -/
def requestUrl (url : Url) : Url :=
  match url.authority with
  | none => url
  | some authority =>
    let decode (s : String) : Option String :=
      Text.Utf8.decode? (Url.percentDecode s.toList)
    match decode authority.username with
    | none => url
    | some username =>
      if !username.isEmpty || (authority.password.bind decode).isSome then url.withoutCredentials
      else url

/-- Reaches no service.  A url with an unsupported scheme is refused before that. -/
def offline : Channel Unit where
  exchange request _ :=
    let url := (requestUrl request.url).text
    if isSupported request.url.scheme then (.error (.request (.unreachable url)), ())
    else (.error (.request (.unsupportedScheme url)), ())

end Channel

end Rerank
