import Rerank.Json.Malformed
import Rerank.Text.Utf8

/-!
# JSON string literals

The escapes of a string are resolved into bytes, and the bytes of the whole string have to be
UTF-8.  An escaped character beyond the first plane is a pair of surrogates.
-/

namespace Rerank.Json

def hexDigit? (b : UInt8) : Option Nat :=
  if 0x30 ≤ b ∧ b ≤ 0x39 then some (b.toNat - 0x30)
  else if 0x41 ≤ b ∧ b ≤ 0x46 then some (b.toNat - 0x37)
  else if 0x61 ≤ b ∧ b ≤ 0x66 then some (b.toNat - 0x57)
  else none

def readHex (bytes : Bytes) : Except Fault (Nat × Bytes) :=
  match bytes with
  | a :: b :: c :: d :: rest =>
    match hexDigit? a, hexDigit? b, hexDigit? c, hexDigit? d with
    | some a, some b, some c, some d => .ok (((a * 16 + b) * 16 + c) * 16 + d, rest)
    | _, _, _, _ => faultAt .invalidEscape rest
  | _ => faultAt .eofInString []

/-- Reads the second half of a pair of surrogates after the first one, `leading`. -/
def readTrailingSurrogate (leading : Nat) (bytes : Bytes) : Except Fault (Char × Bytes) :=
  match bytes with
  | [] => faultAt .eofInString []
  | 0x5C :: rest =>
    match rest with
    | [] => faultAt .eofInString []
    | 0x75 :: rest => do
      let (trailing, rest) ← readHex rest
      if 0xDC00 ≤ trailing ∧ trailing ≤ 0xDFFF then
        .ok (Char.ofNat ((leading - 0xD800) * 0x400 + (trailing - 0xDC00) + 0x10000), rest)
      else faultAt .loneSurrogate rest
    | _ :: rest => faultAt .unexpectedEndOfHexEscape rest
  | _ :: rest => faultAt .unexpectedEndOfHexEscape rest

/-- Reads the character of an escape after its backslash and the letter `u`. -/
def readCodePoint (bytes : Bytes) : Except Fault (Char × Bytes) := do
  let (n, rest) ← readHex bytes
  if 0xDC00 ≤ n ∧ n ≤ 0xDFFF then faultAt .loneSurrogate rest
  else if 0xD800 ≤ n ∧ n ≤ 0xDBFF then readTrailingSurrogate n rest
  else .ok (Char.ofNat n, rest)

/-- Reads an escape after its backslash. -/
def readEscape (bytes : Bytes) : Except Fault (Char × Bytes) :=
  match bytes with
  | [] => faultAt .eofInString []
  | b :: rest =>
    if b = 0x22 then .ok ('"', rest)
    else if b = 0x5C then .ok ('\\', rest)
    else if b = 0x2F then .ok ('/', rest)
    else if b = 0x62 then .ok ('\x08', rest)
    else if b = 0x66 then .ok ('\x0c', rest)
    else if b = 0x6E then .ok ('\n', rest)
    else if b = 0x72 then .ok ('\r', rest)
    else if b = 0x74 then .ok ('\t', rest)
    else if b = 0x75 then readCodePoint rest
    else faultAt .invalidEscape rest

/-- Reads the bytes of a string up to its closing quotation mark.  Each step shortens the bytes, so
their number is `fuel` enough; `read` holds the bytes read so far, the last one first. -/
def readBytes : Nat → List UInt8 → Bytes → Except Fault (List UInt8 × Bytes)
  | 0, _, bytes => faultAt .eofInString bytes
  | _ + 1, _, [] => faultAt .eofInString []
  | fuel + 1, read, b :: rest =>
    if b = 0x22 then .ok (read.reverse, rest)
    else if b = 0x5C then do
      let (c, rest) ← readEscape rest
      readBytes fuel ((String.utf8EncodeChar c).reverse ++ read) rest
    else if b < 0x20 then faultAt .controlCharacter rest
    else readBytes fuel (b :: read) rest

/-- Reads a string after its opening quotation mark.  Whether its bytes are UTF-8 is decided once it
has ended: escapes neither complete nor break a character.  The fault lies as many bytes before the
end of the string as there are bytes from the first invalid one on, where an escape counts as the
bytes that it stands for. -/
def readString (bytes : Bytes) : Except Fault (String × Bytes) := do
  let (content, rest) ← readBytes (bytes.length + 1) [] bytes
  match Text.Utf8.decode? content with
  | some s => .ok (s, rest)
  | none =>
    .error ⟨.invalidCodePoint, rest.length + (content.length - Text.Utf8.validLength content)⟩

end Rerank.Json
