import Rerank.Json.Basic
import Rerank.Numeric.Shortest
import Rerank.Score
import Rerank.Text.Quoted

/-!
# The shape of a JSON value

Values of the domain are read from JSON values of the expected shape.  A record is written as an
object or as the array of its fields in their order of declaration; a value of another shape is a
mismatch, which says what was found and what was expected.
-/

namespace Rerank.Json

/-- What stands where something else was expected. -/
inductive Found where
  | null
  | bool (b : Bool)
  | number (n : JsonNumber)
  | string (s : String)
  | sequence
  | map
deriving DecidableEq, Repr

inductive Expected where
  | sequence
  | string
  /-- An integer from `0` to `2 ^ 64 - 1`. -/
  | index
  /-- A number. -/
  | score
  /-- A record, by its name. -/
  | record (name : String)
deriving DecidableEq, Repr

/-- Why a value does not have the expected shape. -/
inductive Mismatch where
  /-- The value is of another kind. -/
  | kind (found : Found) (expected : Expected)
  /-- The value is of the right kind but out of range. -/
  | range (found : Found) (expected : Expected)
  /-- An object lacks a member. -/
  | missing (field : String)
  /-- An array for a record has only `length` elements. -/
  | tooShort (length : Nat) (name : String) (fields : Nat)
  /-- An array for a record has elements beyond its fields. -/
  | tooLong (length : Nat)
deriving DecidableEq, Repr

def Found.message : Found → String
  | null => "null"
  | bool b => s!"boolean `{b}`"
  | number (.integer n) => s!"integer `{n}`"
  | number (.double x) => s!"floating point `{x.text}`"
  | string s => "string " ++ Text.quote s
  | sequence => "sequence"
  | map => "map"

def Expected.message : Expected → String
  | sequence => "a sequence"
  | string => "a string"
  | index => "usize"
  | score => "f32"
  | record name => s!"struct {name}"

def Mismatch.message : Mismatch → String
  | kind found expected => s!"invalid type: {found.message}, expected {expected.message}"
  | range found expected => s!"invalid value: {found.message}, expected {expected.message}"
  | missing field => s!"missing field `{field}`"
  | tooShort length name fields =>
    s!"invalid length {length}, expected struct {name} with {fields} elements"
  | tooLong length => s!"invalid length {length}, expected fewer elements in array"

/-- What a value is, for a message. -/
def found : Json → Found
  | null => .null
  | bool b => .bool b
  | number n => .number n
  | string s => .string s
  | array _ => .sequence
  | object _ => .map

/-- The value is not of the expected kind. -/
def unexpected {α : Type} (value : Json) (expected : Expected) : Except Mismatch α :=
  .error (.kind value.found expected)

def asElements : Json → Except Mismatch (List Json)
  | array elements => .ok elements
  | value => unexpected value .sequence

def asString : Json → Except Mismatch String
  | string s => .ok s
  | value => unexpected value .string

/-- The value of an integer that is not negative. -/
def asIndex : Json → Except Mismatch Nat
  | number (.integer (.ofNat n)) => .ok n
  | number (.integer n) => .error (.range (.number (.integer n)) .index)
  | value => unexpected value .index

/-- The score nearest to a number. -/
def asScore : Json → Except Mismatch Score
  | number (.integer n) => .ok (Score.ofInt n)
  | number (.double x) => .ok (Score.ofDouble x)
  | value => unexpected value .score

/-- A value that may be null. -/
def asOptional {α : Type} (read : Json → Except Mismatch α) : Json → Except Mismatch (Option α)
  | null => .ok none
  | value => some <$> read value

/-- A member that may be absent or null. -/
def optionalMember {α : Type} (read : Json → Except Mismatch α) (value : Json) (key : String) :
    Except Mismatch (Option α) :=
  match value.get? key with
  | some member => asOptional read member
  | none => .ok none

/-- A member, if it is present. -/
def member? {α : Type} (read : Json → Except Mismatch α) (value : Json) (key : String) :
    Except Mismatch (Option α) :=
  (value.get? key).mapM read

/-- A field that has to be present. -/
def require {α : Type} (key : String) : Option α → Except Mismatch α
  | some a => .ok a
  | none => .error (.missing key)

/-- The result of reading the fields of an array of `length` elements, unless some are left. -/
def noMore {α : Type} (length : Nat) (rest : List Json) (result : α) : Except Mismatch α :=
  if rest.isEmpty then .ok result else .error (.tooLong length)

end Rerank.Json
