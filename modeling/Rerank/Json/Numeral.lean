import Rerank.Json.Basic
import Rerank.Json.Malformed

/-!
# JSON numerals

The digits of a numeral are gathered into a 64-bit significand.  A digit that no longer fits, and
every one after it in the same run, is dropped: before the point it still counts as a power of ten.
A numeral without point and exponent whose digits all fit is an integer; every other one is the
significand times a power of ten, rounded at each of its steps to the 64-bit binary format.
-/

namespace Rerank.Json

open Numeric

def digit? (b : UInt8) : Option Nat :=
  if 0x30 ≤ b ∧ b ≤ 0x39 then some (b.toNat - 0x30) else none

def isDigit (b : UInt8) : Bool :=
  (digit? b).isSome

/-- Appends the digits in front of `bytes` to a significand as long as it fits into 64 bits.  The
number of digits taken is counted on from `taken`. -/
def gather (significand taken : Nat) : List UInt8 → Nat × Nat × List UInt8
  | [] => (significand, taken, [])
  | b :: rest =>
    match digit? b with
    | none => (significand, taken, b :: rest)
    | some d =>
      if significand * 10 + d < 0x10000000000000000 then
        gather (significand * 10 + d) (taken + 1) rest
      else (significand, taken, b :: rest)

/-- A power of ten of the 64-bit format, up to the greatest finite one. -/
def powerOfTen (k : Nat) : Nat :=
  binary64.round (Nat.pow 10 k) 1

/-- A magnitude divided by `10 ^ k`, at most `10 ^ 308` at a time. -/
def shrink (magnitude k : Nat) : Nat :=
  if k ≤ 308 then binary64.div magnitude (powerOfTen k)
  else if magnitude = 0 then 0
  else shrink (binary64.div magnitude (powerOfTen 308)) (k - 308)
termination_by k

/-- A magnitude times a power of ten, unless it is out of range. -/
def scaleByTen? (magnitude : Nat) : Int → Option Nat
  | .negSucc k => some (shrink magnitude (k + 1))
  | .ofNat k =>
    if magnitude = 0 then some 0
    else if k ≤ 308 then
      let product := binary64.mul magnitude (powerOfTen k)
      if product < binary64.infinity then some product else none
    else none

/-- The number with the given sign, significand and power of ten, where `rest` follows. -/
def finish (negative : Bool) (significand : Nat) (exponent : Int) (rest : Bytes) :
    Except Fault (JsonNumber × Bytes) :=
  match scaleByTen? (binary64.round significand 1) exponent with
  | some magnitude => .ok (.double ⟨negative, magnitude⟩, rest)
  | none => faultAt .numberOutOfRange rest

/-- Reads the digits of an exponent after its first one.  An exponent of `2 ^ 31` or more is not
computed: the number is then zero or out of range. -/
def readExponentDigits (negative negativeExponent : Bool) (significand : Nat) (start : Int)
    (exponent : Nat) : Bytes → Except Fault (JsonNumber × Bytes)
  | [] => finish negative significand (total exponent) []
  | b :: rest =>
    match digit? b with
    | none => finish negative significand (total exponent) (b :: rest)
    | some d =>
      if exponent * 10 + d < 0x80000000 then
        readExponentDigits negative negativeExponent significand start (exponent * 10 + d) rest
      else if significand ≠ 0 ∧ negativeExponent = false then faultAt .numberOutOfRange rest
      else .ok (.double ⟨negative, 0⟩, rest.dropWhile isDigit)
where
  /-- The power of ten in all. -/
  total (exponent : Nat) : Int :=
    if negativeExponent then start - exponent else start + exponent

/-- Reads what follows the letter of an exponent. -/
def readExponent (negative : Bool) (significand : Nat) (start : Int) (bytes : Bytes) :
    Except Fault (JsonNumber × Bytes) :=
  let (negativeExponent, digits) :=
    match bytes with
    | 0x2B :: rest => (false, rest)
    | 0x2D :: rest => (true, rest)
    | _ => (false, bytes)
  match digits with
  | [] => faultAt .eofInValue []
  | b :: rest =>
    match digit? b with
    | none => faultAt .invalidNumber rest
    | some d => readExponentDigits negative negativeExponent significand start d rest

/-- Reads an exponent if there is one. -/
def readOptionalExponent (negative : Bool) (significand : Nat) (exponent : Int)
    (bytes : Bytes) : Except Fault (JsonNumber × Bytes) :=
  match bytes with
  | 0x65 :: rest => readExponent negative significand exponent rest
  | 0x45 :: rest => readExponent negative significand exponent rest
  | _ => finish negative significand exponent bytes

/-- Reads what follows the point of a fraction. -/
def readFraction (negative : Bool) (significand : Nat) (exponent : Int) (bytes : Bytes) :
    Except Fault (JsonNumber × Bytes) :=
  match bytes with
  | [] => faultOn .eofInValue []
  | b :: _ =>
    if isDigit b then
      let (significand, taken, rest) := gather significand 0 bytes
      readOptionalExponent negative significand (exponent - taken) (rest.dropWhile isDigit)
    else faultOn .invalidNumber bytes

/-- An integer literal with the given significand.  A negative one that does not fit into 64 bits,
and negative zero, is a number of the binary format. -/
def ofSignificand (negative : Bool) (significand : Nat) : JsonNumber :=
  if negative = false then .integer significand
  else if significand = 0 ∨ 0x8000000000000000 < significand then
    .double ⟨true, binary64.round significand 1⟩
  else .integer (-significand)

/-- Reads what follows the digits before the point, `dropped` of which did not fit. -/
def readTail (negative : Bool) (significand dropped : Nat) (bytes : Bytes) :
    Except Fault (JsonNumber × Bytes) :=
  match bytes with
  | 0x2E :: rest => readFraction negative significand dropped rest
  | 0x65 :: rest => readExponent negative significand dropped rest
  | 0x45 :: rest => readExponent negative significand dropped rest
  | _ =>
    if dropped = 0 then .ok (ofSignificand negative significand, bytes)
    else finish negative significand dropped bytes

/-- Reads a numeral after its sign.  A zero is not followed by a further digit. -/
def readUnsigned (negative : Bool) (bytes : Bytes) : Except Fault (JsonNumber × Bytes) :=
  match bytes with
  | [] => faultAt .eofInValue []
  | 0x30 :: rest =>
    match rest with
    | b :: _ => if isDigit b then faultOn .invalidNumber rest else readTail negative 0 0 rest
    | [] => readTail negative 0 0 rest
  | b :: rest =>
    if isDigit b then
      let (significand, _, rest) := gather 0 0 bytes
      readTail negative significand (rest.takeWhile isDigit).length (rest.dropWhile isDigit)
    else faultAt .invalidNumber rest

end Rerank.Json
