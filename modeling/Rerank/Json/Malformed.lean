/-!
# Bytes that are not JSON

A fault is noticed at some byte.  While reading, that place is given by the number of bytes left;
for the message it is turned into a line and a column, both counted in bytes and lines from one.
-/

namespace Rerank.Json

/-- Why bytes are not JSON. -/
inductive Reason where
  | eofInList
  | eofInObject
  | eofInString
  | eofInValue
  | expectedColon
  | expectedListCommaOrEnd
  | expectedObjectCommaOrEnd
  | expectedIdent
  | expectedValue
  | invalidEscape
  | invalidNumber
  | numberOutOfRange
  | invalidCodePoint
  | controlCharacter
  | keyMustBeString
  | loneSurrogate
  | trailingComma
  | trailingCharacters
  | unexpectedEndOfHexEscape
  | tooDeep
deriving DecidableEq, Repr

def Reason.message : Reason → String
  | eofInList => "EOF while parsing a list"
  | eofInObject => "EOF while parsing an object"
  | eofInString => "EOF while parsing a string"
  | eofInValue => "EOF while parsing a value"
  | expectedColon => "expected `:`"
  | expectedListCommaOrEnd => "expected `,` or `]`"
  | expectedObjectCommaOrEnd => "expected `,` or `\x7d`"
  | expectedIdent => "expected ident"
  | expectedValue => "expected value"
  | invalidEscape => "invalid escape"
  | invalidNumber => "invalid number"
  | numberOutOfRange => "number out of range"
  | invalidCodePoint => "invalid unicode code point"
  | controlCharacter => "control character (\\u0000-\\u001F) found while parsing a string"
  | keyMustBeString => "key must be a string"
  | loneSurrogate => "lone leading surrogate in hex escape"
  | trailingComma => "trailing comma"
  | trailingCharacters => "trailing characters"
  | unexpectedEndOfHexEscape => "unexpected end of hex escape"
  | tooDeep => "recursion limit exceeded"

/-- A fault found while reading, with the number of bytes left where it was noticed. -/
structure Fault where
  reason : Reason
  left : Nat
deriving DecidableEq, Repr

/-- Bytes that are still to be read. -/
abbrev Bytes := List UInt8

/-- A fault noticed just before `rest`. -/
def faultAt {α : Type} (reason : Reason) (rest : Bytes) : Except Fault α :=
  .error ⟨reason, rest.length⟩

/-- A fault noticed at the first byte of `rest`, or at the end of the bytes. -/
def faultOn {α : Type} (reason : Reason) (rest : Bytes) : Except Fault α :=
  .error ⟨reason, rest.length - 1⟩

/-- A reason with its place in the bytes. -/
structure Malformed where
  reason : Reason
  line : Nat
  column : Nat
deriving DecidableEq, Repr

/-- The fault with its place in the bytes that were being read: one line for each newline before
it, and the number of bytes since the last of them. -/
def Fault.locate (fault : Fault) (bytes : Bytes) : Malformed :=
  let before := bytes.take (bytes.length - fault.left)
  { reason := fault.reason
    line := 1 + before.count 0x0A
    column := (before.reverse.takeWhile (· != 0x0A)).length }

def Malformed.message (m : Malformed) : String :=
  s!"{m.reason.message} at line {m.line} column {m.column}"

end Rerank.Json
