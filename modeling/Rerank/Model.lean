/-!
# Models

A model has an identifier.  One that was derived from another names it as its base, and one of the
hosted catalog has an endpoint of its own.
-/

namespace Rerank

/-- A reranking model. -/
structure Model where
  id : String
  baseModel : Option String
  endpoint : Option String
deriving DecidableEq, Repr

namespace Model

/-- Whether the model is not derived from another: it names no base, or itself. -/
def isBase (m : Model) : Bool :=
  match m.baseModel with
  | none => true
  | some base => base.isEmpty || base == m.id

end Model

end Rerank
