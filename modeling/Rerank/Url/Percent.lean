import Rerank.Json.Literal

/-!
# Percent encoding

In each part of a url the characters beyond ASCII and those of a set that depends on the part are
replaced by their UTF-8 bytes, each written as a percent sign and two upper-case hexadecimal
digits.  All other characters, percent signs included, stay as they are.
-/

namespace Rerank.Url

/-- Control characters. -/
def isControl (c : Char) : Bool :=
  decide (c.toNat < 0x20) || c == '\x7f'

/-- Characters encoded in a fragment. -/
def inFragmentSet (c : Char) : Bool :=
  isControl c || [' ', '"', '<', '>', '\x60'].contains c

/-- Characters encoded in a query. -/
def inQuerySet (c : Char) : Bool :=
  isControl c || [' ', '"', '#', '<', '>'].contains c

/-- Characters encoded in the query of a url with a special scheme. -/
def inSpecialQuerySet (c : Char) : Bool :=
  inQuerySet c || c == '\x27'

/-- Characters encoded in a path. -/
def inPathSet (c : Char) : Bool :=
  inFragmentSet c || ['#', '?', '\x7b', '\x7d'].contains c

/-- Characters encoded in a user name or a password. -/
def inUserinfoSet (c : Char) : Bool :=
  inPathSet c || ['/', ':', ';', '=', '@', '[', '\\', ']', '^', '|'].contains c

/-- A hexadecimal digit in upper case. -/
def upperHex (n : Nat) : Char :=
  (Nat.digitChar n).toUpper

/-- A byte as a percent sign and two digits. -/
def encodeByte (b : UInt8) : List Char :=
  ['%', upperHex (b.toNat / 16), upperHex (b.toNat % 16)]

/-- A character, encoded if it is not ASCII or lies in the set. -/
def encodeChar (set : Char → Bool) (c : Char) : List Char :=
  if decide (0x80 ≤ c.toNat) || set c then (String.utf8EncodeChar c).flatMap encodeByte else [c]

/-- The characters with those beyond ASCII and those of the set encoded. -/
def percentEncode (set : Char → Bool) (cs : List Char) : List Char :=
  cs.flatMap (encodeChar set)

def hexValue? (c : Char) : Option Nat :=
  if c.toNat < 0x80 then Json.hexDigit? (UInt8.ofNat c.toNat) else none

/-- The bytes that the characters stand for: a percent sign with two digits is one byte, and every
other character its own UTF-8 bytes. -/
def percentDecode : List Char → List UInt8
  | [] => []
  | c :: rest =>
    match c, rest with
    | '%', high :: low :: tail =>
      match hexValue? high, hexValue? low with
      | some h, some l => UInt8.ofNat (h * 16 + l) :: percentDecode tail
      | _, _ => 0x25 :: percentDecode (high :: low :: tail)
    | c, rest => String.utf8EncodeChar c ++ percentDecode rest

end Rerank.Url
