import Rerank.Model
import Rerank.Text.Blank

/-!
# The hosted catalog

The models that the hosted service offers, in the order of their identifiers, each with the endpoint
that serves it.
-/

namespace Rerank

/-- Models in the order of their identifiers. -/
abbrev Catalog := List Model

namespace Catalog

/-- The endpoint used when no base url is configured. -/
def defaultEndpoint : String :=
  "https://ai.api.nvidia.com/v1/retrieval/nvidia/reranking"

/-- The hosted model used when none is configured. -/
def defaultModel : String :=
  "nvidia/nv-rerankqa-mistral-4b-v3"

/-- The beginning of the names of internal models, which no list of models has. -/
def internalStart : String :=
  "nvdev/"

def isInternal (model : String) : Bool :=
  internalStart.toList.isPrefixOf model.toList

/-- A model of the catalog. -/
def entry (id endpoint : String) : Model where
  id
  baseModel := none
  endpoint := some endpoint

def hosted : Catalog :=
  [ entry "nv-rerank-qa-mistral-4b:1" defaultEndpoint,
    entry "nvidia/llama-3.2-nv-rerankqa-1b-v1"
      "https://ai.api.nvidia.com/v1/retrieval/nvidia/llama-3_2-nv-rerankqa-1b-v1/reranking",
    entry "nvidia/llama-3.2-nv-rerankqa-1b-v2"
      "https://ai.api.nvidia.com/v1/retrieval/nvidia/llama-3_2-nv-rerankqa-1b-v2/reranking",
    entry "nvidia/nv-rerankqa-mistral-4b-v3"
      "https://ai.api.nvidia.com/v1/retrieval/nvidia/nv-rerankqa-mistral-4b-v3/reranking" ]

def empty : Catalog := []

def get? (catalog : Catalog) (id : String) : Option Model :=
  catalog.find? (·.id == id)

/-- Whether a url is an endpoint of the catalog, slashes at the end of either disregarded. -/
def isEndpoint (catalog : Catalog) (url : String) : Bool :=
  (catalog.filterMap Model.endpoint).any fun endpoint =>
    Text.trimEndSlashes endpoint == Text.trimEndSlashes url

end Catalog

end Rerank
