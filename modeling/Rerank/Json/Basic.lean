import Rerank.Keyed
import Rerank.Numeric.Binary

/-!
# JSON values

Numbers written without fraction and exponent are kept exactly as far as they fit into 64 bits;
the others are numbers of the 64-bit binary format.  The members of an object are in key order.
-/

namespace Rerank

open Numeric

inductive JsonNumber where
  /-- An integer from `-2 ^ 63` to `2 ^ 64 - 1`. -/
  | integer (n : Int)
  /-- A finite number of the 64-bit format. -/
  | double (x : Double)
deriving DecidableEq, Repr

inductive Json where
  | null
  | bool (b : Bool)
  | number (n : JsonNumber)
  | string (s : String)
  | array (elements : List Json)
  | object (members : List (String × Json))
deriving Repr

namespace Json

/-- The member of an object with the given key. -/
def get? : Json → String → Option Json
  | object members, key => Keyed.get? members key
  | _, _ => none

end Json

end Rerank
