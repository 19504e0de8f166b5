/-!
# Decoding UTF-8

Bytes are read one at a time.  Between characters the state is empty; inside a character it records
how many bytes are owed and in which range the next one has to lie, so that over-long forms,
surrogates and values beyond the last code point are refused at the first byte that rules them out.
The bytes refused together form one invalid part.  Reading leniently replaces each invalid part by
U+FFFD; reading strictly fails when there is one.
-/

namespace Rerank.Text.Utf8

/-- A character whose first bytes have been read. -/
structure Pending where
  /-- How many bytes are still to come. -/
  owed : Nat
  /-- The least value of the next byte. -/
  low : Nat
  /-- The greatest value of the next byte. -/
  high : Nat
  /-- The bits of the code point read so far. -/
  value : Nat

/-- What a byte between characters begins: a whole character, a longer one, or nothing valid. -/
inductive Start where
  | whole (c : Char)
  | pending (p : Pending)
  | invalid

/-- The meaning of a byte between characters. -/
def start (byte : UInt8) : Start :=
  let b := byte.toNat
  if b < 0x80 then .whole (Char.ofNat b)
  else if b < 0xC2 then .invalid
  else if b < 0xE0 then .pending ⟨1, 0x80, 0xBF, b - 0xC0⟩
  else if b == 0xE0 then .pending ⟨2, 0xA0, 0xBF, 0⟩
  else if b == 0xED then .pending ⟨2, 0x80, 0x9F, 0xD⟩
  else if b < 0xF0 then .pending ⟨2, 0x80, 0xBF, b - 0xE0⟩
  else if b == 0xF0 then .pending ⟨3, 0x90, 0xBF, 0⟩
  else if b < 0xF4 then .pending ⟨3, 0x80, 0xBF, b - 0xF0⟩
  else if b == 0xF4 then .pending ⟨3, 0x80, 0x8F, 4⟩
  else .invalid

/-- What one byte completes, and the character that is being read after it.  A byte that cannot go
on with a character ends an invalid part and is then read as the beginning of the next. -/
def step : Option Pending → UInt8 → List (Option Char) × Option Pending
  | none, byte => fresh byte
  | some p, byte =>
    if p.low ≤ byte.toNat ∧ byte.toNat ≤ p.high then
      let value := p.value * 64 + (byte.toNat - 0x80)
      if p.owed ≤ 1 then ([some (Char.ofNat value)], none)
      else ([], some ⟨p.owed - 1, 0x80, 0xBF, value⟩)
    else (none :: (fresh byte).1, (fresh byte).2)
where
  /-- What a byte between characters completes. -/
  fresh (byte : UInt8) : List (Option Char) × Option Pending :=
    match start byte with
    | .whole c => ([some c], none)
    | .pending p => ([], some p)
    | .invalid => ([none], none)

/-- The parts of a byte sequence from a state on: its characters, and `none` for each invalid
part. -/
def partsFrom : Option Pending → List UInt8 → List (Option Char)
  | none, [] => []
  | some _, [] => [none]
  | state, byte :: rest => (step state byte).1 ++ partsFrom (step state byte).2 rest

/-- The characters of a byte sequence, with `none` for each invalid part. -/
def parts (bytes : List UInt8) : List (Option Char) :=
  partsFrom none bytes

/-- The text with U+FFFD in place of each invalid part. -/
def decodeLossy (bytes : List UInt8) : String :=
  String.ofList ((parts bytes).map (·.getD '\ufffd'))

/-- The text, if no part is invalid. -/
def decode? (bytes : List UInt8) : Option String :=
  ((parts bytes).mapM id).map String.ofList

/-- How many bytes the characters before the first invalid part take. -/
def validLength (bytes : List UInt8) : Nat :=
  ((parts bytes).takeWhile Option.isSome).foldl (fun n c => n + (c.getD 'a').utf8Size) 0

def encode (s : String) : List UInt8 :=
  s.toList.flatMap String.utf8EncodeChar

end Rerank.Text.Utf8
