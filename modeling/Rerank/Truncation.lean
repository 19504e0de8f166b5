import Rerank.Failure

/-!
# Truncation

What the service does with a passage that is longer than the context of the model.
-/

namespace Rerank

/-- How long passages are treated. -/
inductive Truncation where
  /-- They are refused. -/
  | off
  /-- They are cut at the end. -/
  | atEnd
deriving DecidableEq, Repr

namespace Truncation

def name : Truncation → String
  | off => "NONE"
  | atEnd => "END"

/-- The mode with the given name, up to white space around it and the case of its letters. -/
def ofName (text : String) : Except Failure Truncation :=
  let mode := Text.upperAscii (Text.trim text)
  if mode = off.name then .ok off
  else if mode = atEnd.name then .ok atEnd
  else .error (.config (.unknownTruncation mode))

end Truncation

end Rerank
