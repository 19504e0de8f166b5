import Rerank.Url.Percent

/-!
# IPv4 addresses

A host whose last label looks like a number is an IPv4 address: one to four numbers, each decimal,
octal or hexadecimal, of which the last one fills the bytes that the others leave.
-/

namespace Rerank.Url

/-- The pieces between the characters that satisfy `p`. -/
def splitOn (p : Char → Bool) : List Char → List (List Char)
  | [] => [[]]
  | c :: rest =>
    if p c then [] :: splitOn p rest
    else
      match splitOn p rest with
      | [] => [[c]]
      | piece :: pieces => (c :: piece) :: pieces

namespace Ipv4

/-- The number that digits denote in a base, if all are digits of it. -/
def numeral? (base : Nat) (cs : List Char) : Option Nat :=
  cs.foldlM (fun n c => do
    let d ← hexValue? c
    if d < base then some (n * base + d) else none) 0

/-- The value of one part of an address: hexadecimal after `0x`, octal after a further leading zero,
and decimal otherwise. -/
def part? : List Char → Option Nat
  | [] => none
  | '0' :: 'x' :: digits => numeral? 16 digits
  | '0' :: 'X' :: digits => numeral? 16 digits
  | '0' :: d :: digits => numeral? 8 (d :: digits)
  | digits => numeral? 10 digits

/-- The last label of a host: what follows its last dot, a single dot at the end disregarded. -/
def lastLabel (labels : List (List Char)) : List Char :=
  match labels.reverse with
  | [] :: label :: _ => label
  | label :: _ => label
  | [] => []

/-- Whether the last label of a host is a number, which makes the host an address or nothing. -/
def endsInNumber (labels : List (List Char)) : Bool :=
  let label := lastLabel labels
  (!label.isEmpty && label.all Char.isDigit) || (part? label).isSome

/-- The labels without a single empty one at the end. -/
def dropEmptyEnd (labels : List (List Char)) : List (List Char) :=
  match labels.getLast? with
  | some [] => labels.dropLast
  | _ => labels

/-- The address that the numbers of its parts denote.  The last one is less than `256 ^ k` where `k`
is the number of bytes left to it, and each of the others is a byte. -/
def ofNumbers? (numbers : List Nat) : Option Nat :=
  match numbers.reverse with
  | [] => none
  | last :: others =>
    let bytes := others.reverse
    if bytes.length ≤ 3 ∧ bytes.all (· ≤ 255) ∧ last < Nat.pow 256 (4 - bytes.length) then
      some (bytes.foldl (fun n b => n * 256 + b) 0 * Nat.pow 256 (4 - bytes.length) + last)
    else none

/-- The address that the labels of a host denote. -/
def parse? (labels : List (List Char)) : Option Nat := do
  ofNumbers? (← (dropEmptyEnd labels).mapM part?)

/-- The four bytes of an address in decimal, with dots between. -/
def text (address : Nat) : List Char :=
  let byte (k : Nat) : List Char := Nat.toDigits 10 (address / Nat.pow 256 k % 256)
  byte 3 ++ '.' :: byte 2 ++ '.' :: byte 1 ++ '.' :: byte 0

end Ipv4

end Rerank.Url
