import Rerank.Json.Literal
import Rerank.Json.Numeral

/-!
# Reading JSON

A value is read off the front of some bytes.  Arrays and objects nest at most 127 deep, and the
depth still allowed is what the recursion runs on; the elements of one array and the members of
one object are read by loops that take the reader of their values as an argument.
-/

namespace Rerank.Json

/-- The bytes without the white space in front of them. -/
def skipSpace (bytes : Bytes) : List UInt8 :=
  bytes.dropWhile fun b => b == 0x20 || b == 0x0A || b == 0x09 || b == 0x0D

/-- Reads the rest of a keyword. -/
def readWord (word : List UInt8) (value : Json) (bytes : Bytes) : Except Fault (Json × Bytes) :=
  match word, bytes with
  | [], rest => .ok (value, rest)
  | _ :: _, [] => faultAt .eofInValue []
  | w :: word, b :: rest =>
    if w = b then readWord word value rest else faultAt .expectedIdent rest

/-- Reads the elements of an array from the first one on, up to the closing bracket.  Each element
takes at least one byte, so the number of bytes is `fuel` enough. -/
def readElements (item : Bytes → Except Fault (Json × Bytes)) :
    Nat → Bytes → Except Fault (List Json × Bytes)
  | 0, bytes => faultAt .eofInList bytes
  | fuel + 1, bytes => do
    let (element, rest) ← item bytes
    match skipSpace rest with
    | [] => faultOn .eofInList []
    | 0x5D :: rest => .ok ([element], rest)
    | 0x2C :: rest =>
      match skipSpace rest with
      | [] => faultOn .eofInValue []
      | 0x5D :: rest => faultOn .trailingComma (0x5D :: rest)
      | rest => do
        let (elements, rest) ← readElements item fuel rest
        .ok (element :: elements, rest)
    | rest => faultOn .expectedListCommaOrEnd rest

/-- Reads an array after its opening bracket. -/
def readArray (item : Bytes → Except Fault (Json × Bytes)) (bytes : Bytes) :
    Except Fault (List Json × Bytes) :=
  match skipSpace bytes with
  | [] => faultOn .eofInList []
  | 0x5D :: rest => .ok ([], rest)
  | rest => readElements item rest.length rest

/-- Reads a key after its opening quotation mark, the colon and the value. -/
def readMember (item : Bytes → Except Fault (Json × Bytes)) (bytes : Bytes) :
    Except Fault ((String × Json) × Bytes) := do
  let (key, rest) ← readString bytes
  match skipSpace rest with
  | [] => faultOn .eofInObject []
  | 0x3A :: rest => do
    let (value, rest) ← item rest
    .ok ((key, value), rest)
  | rest => faultOn .expectedColon rest

/-- Reads the members of an object from after the quotation mark that opens the first key, up to
the closing brace.  Each member takes at least one byte, so the number of bytes is `fuel` enough. -/
def readMembers (item : Bytes → Except Fault (Json × Bytes)) :
    Nat → Bytes → Except Fault (List (String × Json) × Bytes)
  | 0, bytes => faultAt .eofInObject bytes
  | fuel + 1, bytes => do
    let (member, rest) ← readMember item bytes
    match skipSpace rest with
    | [] => faultOn .eofInObject []
    | 0x7D :: rest => .ok ([member], rest)
    | 0x2C :: rest =>
      match skipSpace rest with
      | [] => faultOn .eofInValue []
      | 0x22 :: rest => do
        let (members, rest) ← readMembers item fuel rest
        .ok (member :: members, rest)
      | 0x7D :: rest => faultOn .trailingComma (0x7D :: rest)
      | rest => faultOn .keyMustBeString rest
    | rest => faultOn .expectedObjectCommaOrEnd rest

/-- Reads an object after its opening brace.  A later member replaces an earlier one of the same
key. -/
def readObject (item : Bytes → Except Fault (Json × Bytes)) (bytes : Bytes) :
    Except Fault (Json × Bytes) :=
  match skipSpace bytes with
  | [] => faultOn .eofInObject []
  | 0x7D :: rest => .ok (.object [], rest)
  | 0x22 :: rest => do
    let (members, rest) ← readMembers item (rest.length + 1) rest
    .ok (.object (Keyed.ofList members), rest)
  | rest => faultOn .keyMustBeString rest

/-- Reads a value that holds no other: a keyword, a number or a string. -/
def readScalar (bytes : Bytes) : Except Fault (Json × Bytes) :=
  match bytes with
  | [] => faultOn .eofInValue []
  | b :: rest =>
    if b = 0x6E then readWord [0x75, 0x6C, 0x6C] .null rest
    else if b = 0x74 then readWord [0x72, 0x75, 0x65] (.bool true) rest
    else if b = 0x66 then readWord [0x61, 0x6C, 0x73, 0x65] (.bool false) rest
    else if b = 0x22 then do
      let (s, rest) ← readString rest
      .ok (.string s, rest)
    else if b = 0x2D then do
      let (n, rest) ← readUnsigned true rest
      .ok (.number n, rest)
    else if isDigit b then do
      let (n, rest) ← readUnsigned false bytes
      .ok (.number n, rest)
    else faultOn .expectedValue bytes

/-- Reads a value in which arrays and objects nest at most `depth` deep. -/
def readValue : Nat → Bytes → Except Fault (Json × Bytes)
  | 0, bytes =>
    match skipSpace bytes with
    | 0x5B :: rest => faultOn .tooDeep (0x5B :: rest)
    | 0x7B :: rest => faultOn .tooDeep (0x7B :: rest)
    | rest => readScalar rest
  | depth + 1, bytes =>
    match skipSpace bytes with
    | 0x5B :: rest => do
      let (elements, rest) ← readArray (readValue depth) rest
      .ok (.array elements, rest)
    | 0x7B :: rest => readObject (readValue depth) rest
    | rest => readScalar rest

/-- The value that bytes are the JSON text of. -/
def parse (bytes : Bytes) : Except Malformed Json :=
  let result : Except Fault Json := do
    let (value, rest) ← readValue 127 bytes
    match skipSpace rest with
    | [] => .ok value
    | rest => faultOn .trailingCharacters rest
  result.mapError (·.locate bytes)

end Rerank.Json
