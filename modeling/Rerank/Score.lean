import Rerank.Numeric.Binary
import Rerank.Text.Quoted

/-!
# Relevance scores

A score is a number of the 32-bit binary format, given by its bits.  Scores are ordered by the
total order of that format: negative numbers before positive ones, so `-0` before `+0`, and each
NaN beyond the infinity of its sign.
-/

namespace Rerank

structure Score where
  bits : UInt32
deriving DecidableEq, Repr

namespace Score

/-- The place of a score in the total order of the format. -/
def place (s : Score) : Int :=
  let b := s.bits.toNat
  if b < 0x80000000 then b else 0x7FFFFFFF - b

/-- Distinct scores have distinct places. -/
theorem place_injective : Function.Injective place := by
  intro s t h
  cases s with | mk a => cases t with | mk b =>
  have ha := a.toNat_lt
  have hb := b.toNat_lt
  simp only [place] at h
  congr 1
  apply UInt32.toNat_inj.1
  split at h <;> split at h <;> omega

instance : LE Score where
  le s t := s.place ≤ t.place

instance (s t : Score) : Decidable (s ≤ t) :=
  inferInstanceAs (Decidable (s.place ≤ t.place))

instance : LT Score where
  lt s t := s.place < t.place

instance (s t : Score) : Decidable (s < t) :=
  inferInstanceAs (Decidable (s.place < t.place))

/-- The score with the given sign and magnitude. -/
def ofMagnitude (negative : Bool) (magnitude : Nat) : Score :=
  ⟨UInt32.ofNat (if negative then 0x80000000 + magnitude else magnitude)⟩

/-- The score nearest to an integer. -/
def ofInt (n : Int) : Score :=
  ofMagnitude (decide (n < 0)) (Numeric.binary32.round n.natAbs 1)

/-- The score nearest to a 64-bit number; it is infinite where the range is exceeded. -/
def ofDouble (x : Numeric.Double) : Score :=
  ofMagnitude x.negative (Numeric.binary32.ofDyadic x.value)

/-- The bits of a score as eight hexadecimal digits. -/
def hex (s : Score) : String :=
  let digits := Text.hexDigits s.bits.toNat
  String.ofList (List.replicate (8 - digits.length) '0' ++ digits)

end Score

end Rerank
