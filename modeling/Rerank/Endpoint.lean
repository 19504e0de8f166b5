import Rerank.Observation
import Rerank.Url.Parser

/-!
# Base urls and what is derived from them

The base url of a self-hosted service has a host, no query and no fragment, and a path that ends in
`/v1`.  The urls of its operations extend that path.
-/

namespace Rerank.Endpoint

/-- The segments of a base path: without empty ones at the end, and with the version last. -/
def versioned (segments : List String) : List String :=
  let kept := Text.trimEnd String.isEmpty segments
  if kept.getLast? == some "v1" then kept else kept ++ ["v1"]

/-- Whether the version is missing from the end of a path. -/
def lacksVersion (segments : List String) : Bool :=
  (Text.trimEnd String.isEmpty segments).getLast? != some "v1"

variable [Url.Idna]

/-- The base url that a text gives, with the log records about it. -/
def normalize (raw : String) : Except Failure (Url × List LogRecord) :=
  match Url.parse raw with
  | .error _ => .error (.config (.invalidBaseUrl raw))
  | .ok url =>
    match url.hasHost, url.path with
    | true, .rooted segments =>
      .ok ({ url.withSegments (versioned segments) with query := none, fragment := none },
        if lacksVersion segments then [.unversionedBaseUrl raw] else [])
    | _, _ => .error (.config (.invalidBaseUrl raw))

/-- The text of a url, without slashes at its end, and a name after a slash. -/
def extended (base : Url) (name : String) : String :=
  Text.trimEndSlashes base.text ++ "/" ++ name

/-- Where the models of a service are listed. -/
def modelsUrl (base : Url) : Except Failure Url :=
  let raw := extended base "models"
  (Url.parse raw).mapError fun reason => .config (.invalidModelsUrl raw reason)

/-- Where a self-hosted service scores passages. -/
def rankingUrl (base : Url) : Except Failure Url :=
  let raw := extended base "ranking"
  (Url.parse raw).mapError fun reason => .config (.invalidRankingUrl raw reason)

end Rerank.Endpoint
