import Rerank.Json.Malformed
import Rerank.Json.Shape
import Rerank.Text.Blank
import Rerank.Url.Basic

/-!
# What can go wrong

Each way in which a call fails is a cause of its own.  The wording of all of them is in one
function, and every failure is a problem of the configuration, of the caller's input, or of the
remote service.
-/

namespace Rerank

/-- A problem with the settings. -/
inductive ConfigFault where
  /-- No truncation mode has this name. -/
  | unknownTruncation (mode : String)
  | zeroBatchSize
  | missingApiKey
  /-- The key holds a character that a header cannot. -/
  | unusableApiKey
  | invalidBaseUrl (raw : String)
  | invalidHostedEndpoint (raw : String) (reason : Url.ParseError)
  | invalidModelsUrl (raw : String) (reason : Url.ParseError)
  | invalidRankingUrl (raw : String) (reason : Url.ParseError)
  /-- The service does not list the model. -/
  | modelNotListed (model : String)
  /-- The service lists no model that could be chosen. -/
  | noModelListed
deriving DecidableEq, Repr

/-- A request that got no reply. -/
inductive RequestFault where
  /-- The scheme of the url is not one that requests can be made with. -/
  | unsupportedScheme (url : String)
  /-- The service could not be reached. -/
  | unreachable (url : String)
  /-- Anything else that a channel reports, such as a limit of time or a reply that breaks off. -/
  | other (text : String)
deriving DecidableEq, Repr

/-- A reply that is JSON but not what was asked for. -/
inductive ReplyFault where
  /-- The reply is not an object with the expected member. -/
  | missingMember (key : String)
  | notRankings (mismatch : Json.Mismatch)
  | notModels (mismatch : Json.Mismatch)
  /-- A ranking of a batch of `size` passages has an index that none of them has. -/
  | indexOutOfBatch (index size : Nat)
  | repeatedIndex (index : Nat)
  /-- An item refers to a passage that was not given. -/
  | indexOutOfRange (index : Nat)
  /-- A scripted channel has no reply left. -/
  | noReplyLeft
deriving DecidableEq, Repr

/-- Why a call failed. -/
inductive Failure where
  | config (fault : ConfigFault)
  | emptyQuery
  | request (fault : RequestFault)
  /-- The reply is not JSON. -/
  | malformed (fault : Json.Malformed)
  | reply (fault : ReplyFault)
  /-- The service answered with a status that is not a success. -/
  | status (code : Nat) (body : String)
deriving DecidableEq, Repr

inductive Category where
  | config
  | validation
  | remote
deriving DecidableEq, Repr

def ConfigFault.message : ConfigFault → String
  | unknownTruncation mode =>
    "invalid truncate mode " ++ Text.quote mode ++ ", expected NONE or END"
  | zeroBatchSize => "max_batch_size must be at least 1"
  | missingApiKey =>
    "an API key is required for the hosted NIM; set NVIDIA_API_KEY or pass api_key"
  | unusableApiKey => "api key is not a valid header value"
  | invalidBaseUrl raw =>
    s!"invalid base_url format. Expected format is: http://host:port Got: {raw}"
  | invalidHostedEndpoint raw reason => s!"invalid hosted endpoint {raw}: {reason.message}"
  | invalidModelsUrl raw reason => s!"invalid models url {raw}: {reason.message}"
  | invalidRankingUrl raw reason => s!"invalid ranking url {raw}: {reason.message}"
  | modelNotListed model => s!"no locally hosted {model} was found"
  | noModelListed => "no locally hosted model was found"

def RequestFault.message : RequestFault → String
  | unsupportedScheme url => s!"builder error for url ({url})"
  | unreachable url => s!"error sending request for url ({url})"
  | other text => text

def ReplyFault.message : ReplyFault → String
  | missingMember key => s!"response does not contain expected '{key}' key"
  | notRankings mismatch =>
    "response 'rankings' is not a list of objects with 'index' and 'logit': " ++ mismatch.message
  | notModels mismatch =>
    "response 'data' is not a list of objects with 'id': " ++ mismatch.message
  | indexOutOfBatch index size => s!"ranking index {index} out of range for batch of {size}"
  | repeatedIndex index => s!"ranking index {index} repeated within one batch"
  | indexOutOfRange index => s!"ranking index {index} out of range"
  | noReplyLeft => "no mock response queued"

namespace Failure

def message : Failure → String
  | config fault => "configuration error: " ++ fault.message
  | emptyQuery => "validation error: missing query, please do not give an empty query"
  | request fault => "http error: " ++ fault.message
  | malformed fault => "serialization error: " ++ fault.message
  | reply fault => "provider returned invalid response: " ++ fault.message
  | status code body => s!"provider API error: status={code}, body={body}"

def category : Failure → Category
  | config _ => .config
  | emptyQuery => .validation
  | request _ | malformed _ | reply _ | status _ _ => .remote

end Failure

end Rerank
