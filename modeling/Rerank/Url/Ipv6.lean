import Rerank.Url.Ipv4

/-!
# IPv6 addresses

Eight groups of up to four hexadecimal digits, separated by colons.  Two colons stand for one group
or more of zeros, once, and an IPv4 address may stand for the last two groups.
-/

namespace Rerank.Url.Ipv6

/-- Groups read so far, with the place of the two colons among them: the number of groups up to and
including the zero group that they stand for. -/
structure Groups where
  groups : List Nat
  gap : Option Nat

/-- One byte in decimal, without leading zeros. -/
def byte? (cs : List Char) : Option Nat :=
  match cs with
  | [] => none
  | '0' :: _ :: _ => none
  | digits => do
    let n ← Ipv4.numeral? 10 digits
    if n ≤ 255 then some n else none

/-- The two groups that a dotted IPv4 address stands for. -/
def dotted? (cs : List Char) : Option (List Nat) := do
  match ← (splitOn (· == '.') cs).mapM byte? with
  | [a, b, c, d] => some [a * 256 + b, c * 256 + d]
  | _ => none

/-- Reads the groups of an address up to its end.  Each round takes at least one character, so their
number is `fuel` enough. -/
def readGroups : Nat → Groups → List Char → Option Groups
  | _, read, [] => some read
  | 0, _, _ :: _ => none
  | fuel + 1, read, c :: rest =>
    if 8 ≤ read.groups.length then none
    else if c = ':' then
      match read.gap with
      | some _ => none
      | none => readGroups fuel ⟨read.groups ++ [0], some (read.groups.length + 1)⟩ rest
    else
      let digits := ((c :: rest).take 4).takeWhile fun d => (hexValue? d).isSome
      let after := (c :: rest).drop digits.length
      let group := digits.foldl (fun n d => n * 16 + (hexValue? d).getD 0) 0
      match after with
      | [] => some ⟨read.groups ++ [group], read.gap⟩
      | '.' :: _ =>
        if digits.isEmpty ∨ 6 < read.groups.length then none
        else (dotted? (c :: rest)).map fun last => ⟨read.groups ++ last, read.gap⟩
      | ':' :: tail =>
        if tail.isEmpty then none else readGroups fuel ⟨read.groups ++ [group], read.gap⟩ tail
      | _ => none

/-- The eight groups, the two colons filled up with zeros. -/
def expand? (read : Groups) : Option (List Nat) :=
  match read.gap with
  | some gap =>
    some (read.groups.take gap ++ List.replicate (8 - read.groups.length) 0 ++ read.groups.drop gap)
  | none => if read.groups.length = 8 then some read.groups else none

def parse? (cs : List Char) : Option (List Nat) :=
  match cs with
  | [] => none
  | [_] => none
  | ':' :: ':' :: rest => do expand? (← readGroups rest.length ⟨[0], some 1⟩ rest)
  | ':' :: _ => none
  | _ => do expand? (← readGroups cs.length ⟨[], none⟩ cs)

/-- The number of zero groups at the front. -/
def zeros (groups : List Nat) : Nat :=
  (groups.takeWhile (· == 0)).length

/-- The place and the length of the longest run of zero groups, the first of several. -/
def longestZeros (groups : List Nat) : Nat × Nat :=
  (List.range groups.length).foldl (fun best start =>
    let run := zeros (groups.drop start)
    if best.2 < run then (start, run) else best) (0, 0)

/-- Groups in hexadecimal with colons between. -/
def joined (groups : List Nat) : List Char :=
  List.intercalate [':'] (groups.map (Nat.toDigits 16))

/-- The text of an address.  The longest run of two or more zero groups is left out between two
colons. -/
def text (groups : List Nat) : List Char :=
  let (start, run) := longestZeros groups
  if 2 ≤ run then
    joined (groups.take start) ++ [':', ':'] ++ joined (groups.drop (start + run))
  else joined groups

end Rerank.Url.Ipv6
