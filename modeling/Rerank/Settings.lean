import Rerank.Truncation

/-!
# Settings

What a caller may choose before a service is looked for.  Two of the settings may come from an
environment; what a caller gives explicitly wins.
-/

namespace Rerank

structure Settings where
  model : Option String := none
  apiKey : Option String := none
  baseUrl : Option String := none
  truncation : Option Truncation := none
  /-- How many items a call returns at most. -/
  topN : Nat := 5
  /-- How many passages a request holds at most. -/
  maxBatchSize : Nat := 64
  /-- How long a request may take, in milliseconds. -/
  timeout : Nat := 8000
deriving DecidableEq, Repr

/-- Settings given explicitly, the truncation by its name. -/
structure Overrides where
  model : Option String := none
  apiKey : Option String := none
  baseUrl : Option String := none
  truncation : Option String := none
  topN : Option Nat := none
  maxBatchSize : Option Nat := none
  timeout : Option Nat := none
deriving DecidableEq, Repr

namespace Settings

def apiKeyVariable : String := "NVIDIA_API_KEY"

def baseUrlVariable : String := "NVIDIA_BASE_URL"

/-- The default settings with the key and the base url that an environment gives.  Blank values
count as absent; others are kept as they are. -/
def ofEnvironment (lookup : String → Option String) : Settings where
  apiKey := (lookup apiKeyVariable).bind Text.nonBlank
  baseUrl := (lookup baseUrlVariable).bind Text.nonBlank

/-- The settings with what is given explicitly in their place. -/
def override (settings : Settings) (given : Overrides) : Except Failure Settings := do
  let truncation ← given.truncation.mapM Truncation.ofName
  return {
    model := given.model.or settings.model
    apiKey := given.apiKey.or settings.apiKey
    baseUrl := given.baseUrl.or settings.baseUrl
    truncation := truncation.or settings.truncation
    topN := given.topN.getD settings.topN
    maxBatchSize := given.maxBatchSize.getD settings.maxBatchSize
    timeout := given.timeout.getD settings.timeout }

end Settings

end Rerank
