import Rerank.Request

/-!
# What can be observed of a call

A call sends requests, writes log records and announces events, in one order.  Events are delivered
to a sink, which may keep them or write log records about them.
-/

namespace Rerank

/-- A passage, by its position among those given, with its score. -/
structure Item where
  index : Nat
  score : Score
deriving DecidableEq, Repr

/-- What a ranking call announces. -/
inductive Event where
  | started (query : String) (passages : List String) (topN : Nat) (model : String)
  | ended (model : String) (results : List Item)
deriving DecidableEq, Repr

inductive LogRecord where
  /-- The base url had to be completed. -/
  | unversionedBaseUrl (raw : String)
  /-- The hosted model is not in the catalog. -/
  | unverifiedModel (model : String)
  /-- No model was configured and this one was chosen. -/
  | modelChosen (model : String)
  | batchScored (batch size rankings : Nat)
  | rankingStarted (model : String) (topN passages : Nat)
  | rankingQuery (query : String)
  | rankingEnded (model : String) (results : Nat) (topScore : Option Score)
deriving DecidableEq, Repr

namespace LogRecord

inductive Level where
  | warn
  | info
  | debug
deriving DecidableEq, Repr

def Level.name : Level → String
  | warn => "WARN"
  | info => "INFO"
  | debug => "DEBUG"

/-- The value of a field of a record. -/
inductive Field where
  | text (s : String)
  | number (n : Nat)
  | score (s : Option Score)
deriving DecidableEq, Repr

/-- The level of a record. -/
def level : LogRecord → Level
  | unversionedBaseUrl _ | unverifiedModel _ | modelChosen _ => .warn
  | batchScored _ _ _ | rankingQuery _ => .debug
  | rankingStarted _ _ _ | rankingEnded _ _ _ => .info

/-- The message of a record. -/
def message : LogRecord → String
  | unversionedBaseUrl _ =>
    "base_url does not end in /v1, you may have inference and listing issues"
  | unverifiedModel _ => "unable to determine validity of hosted model"
  | modelChosen _ =>
    "default model auto-selected; pass a model explicitly, see available_models()"
  | batchScored _ _ _ => "scored rerank batch"
  | rankingStarted _ _ _ => "rerank started"
  | rankingQuery _ => "rerank query"
  | rankingEnded _ _ _ => "rerank ended"

/-- The fields of a record. -/
def fields : LogRecord → List (String × Field)
  | unversionedBaseUrl raw => [("base_url", .text raw)]
  | unverifiedModel model => [("model", .text model)]
  | modelChosen model => [("model", .text model)]
  | batchScored batch size rankings =>
    [("batch", .number batch), ("size", .number size), ("rankings", .number rankings)]
  | rankingStarted model topN passages =>
    [("model", .text model), ("top_n", .number topN), ("passages", .number passages)]
  | rankingQuery query => [("query", .text query)]
  | rankingEnded model results topScore =>
    [("model", .text model), ("results", .number results), ("top_score", .score topScore)]

end LogRecord

/-- One thing that was observed. -/
inductive Observation where
  /-- A request was sent. -/
  | request (request : Request)
  /-- The request before got a reply. -/
  | reply (response : Response)
  /-- The request before got none. -/
  | noReply (failure : Failure)
  | log (entry : LogRecord)
  /-- An event was announced. -/
  | event (event : Event)
  /-- The sink kept an event. -/
  | kept (event : Event)
deriving DecidableEq, Repr

/-- What is done with the events of a client. -/
structure EventSink where
  /-- The log records written about an event. -/
  logs : Event → List LogRecord
  /-- Whether an event is kept. -/
  keeps : Event → Bool

namespace EventSink

/-- The log records about an event. -/
def records : Event → List LogRecord
  | .started query passages topN model =>
    [.rankingStarted model topN passages.length, .rankingQuery query]
  | .ended model results =>
    [.rankingEnded model results.length (results.head?.map Item.score)]

/-- The sink that writes log records. -/
def logging : EventSink where
  logs := records
  keeps _ := false

/-- The sink that keeps every event. -/
def recording : EventSink where
  logs _ := []
  keeps _ := true

/-- What is observed when an event is announced to the sink. -/
def deliver (sink : EventSink) (event : Event) : List Observation :=
  .event event :: (if sink.keeps event then [.kept event] else []) ++ (sink.logs event).map .log

end EventSink

/-- The requests among observations. -/
def requestsOf (trace : List Observation) : List Request :=
  trace.filterMap fun | .request request => some request | _ => none

/-- The replies among observations. -/
def repliesOf (trace : List Observation) : List Response :=
  trace.filterMap fun | .reply response => some response | _ => none

/-- The log records among observations. -/
def logsOf (trace : List Observation) : List LogRecord :=
  trace.filterMap fun | .log entry => some entry | _ => none

/-- The events announced among observations. -/
def eventsOf (trace : List Observation) : List Event :=
  trace.filterMap fun | .event event => some event | _ => none

/-- The events kept among observations. -/
def keptOf (trace : List Observation) : List Event :=
  trace.filterMap fun | .kept event => some event | _ => none

end Rerank
