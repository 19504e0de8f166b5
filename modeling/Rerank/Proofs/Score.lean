import Mathlib
import Rerank.Json.Basic
import Rerank.Proofs.Numeric.Nearest
import Rerank.Score

/-!
# Scores are nearest to the numbers they are read from

A number is read as the score whose absolute value is nearest to its own, with its sign.  What that
is follows from the bits of scores alone: one bit of sign, eight of exponent and 23 of fraction.
-/

namespace Rerank

namespace Score

/-- Whether the bit of the sign is set. -/
def isNegative (s : Score) : Bool :=
  decide (2 ^ 31 ≤ s.bits.toNat)

/-- The bits below the sign. -/
def magnitude (s : Score) : Nat :=
  s.bits.toNat % 2 ^ 31

/-- Not all bits of the exponent are set. -/
def IsFinite (s : Score) : Prop :=
  s.magnitude < 255 * 2 ^ 23

/-- All bits of the exponent are set and none of the fraction. -/
def IsInfinite (s : Score) : Prop :=
  s.magnitude = 255 * 2 ^ 23

/-- The absolute value of a finite score. -/
def absolute (s : Score) : ℚ :=
  Numeric.valueOf 23 (-149) s.magnitude

/-- The score is the one nearest to a number of the given sign and absolute value.  Of two equally
near the last bit is even, and beyond half way from the greatest finite score to `2 ^ 128` it is
infinite.  The sign is that of the number, also where the score is zero. -/
structure IsNearest (negative : Bool) (number : ℚ) (s : Score) : Prop where
  isNegative_eq : s.isNegative = negative
  isFinite : number < 2 ^ 128 - 2 ^ 103 → s.IsFinite
  le : number < 2 ^ 128 - 2 ^ 103 → ∀ t : Score, t.IsFinite →
    |s.absolute - number| ≤ |t.absolute - number|
  even : number < 2 ^ 128 - 2 ^ 103 → ∀ t : Score, t.IsFinite → t.absolute ≠ s.absolute →
    |t.absolute - number| = |s.absolute - number| → Even s.magnitude
  isInfinite : 2 ^ 128 - 2 ^ 103 ≤ number → s.IsInfinite

/-- The sign and the bits below it are all of a score. -/
theorem eq_of_magnitude_eq {s t : Score} (hnegative : s.isNegative = t.isNegative)
    (hmagnitude : s.magnitude = t.magnitude) : s = t := by
  cases s with | mk a => cases t with | mk b =>
  have ha := a.toNat_lt
  have hb := b.toNat_lt
  simp only [isNegative, magnitude, decide_eq_decide] at hnegative hmagnitude
  congr 1
  apply UInt32.toNat_inj.1
  omega

theorem toNat_bits_ofMagnitude {negative : Bool} {magnitude : Nat} (hlt : magnitude < 2 ^ 31) :
    (ofMagnitude negative magnitude).bits.toNat =
      if negative then 2 ^ 31 + magnitude else magnitude := by
  have hsize : UInt32.size = 2 ^ 32 := rfl
  rw [ofMagnitude, UInt32.toNat_ofNat_of_lt']
  · rfl
  · rw [hsize]
    split <;> omega

theorem isNegative_ofMagnitude {negative : Bool} {magnitude : Nat} (hlt : magnitude < 2 ^ 31) :
    (ofMagnitude negative magnitude).isNegative = negative := by
  rw [isNegative, toNat_bits_ofMagnitude hlt]
  cases negative with
  | true => simp
  | false => simpa using hlt

theorem magnitude_ofMagnitude {negative : Bool} {magnitude : Nat} (hlt : magnitude < 2 ^ 31) :
    (ofMagnitude negative magnitude).magnitude = magnitude := by
  rw [Score.magnitude, toNat_bits_ofMagnitude hlt]
  split <;> omega

theorem absolute_ofMagnitude {negative : Bool} {magnitude : Nat} (hlt : magnitude < 2 ^ 31) :
    (ofMagnitude negative magnitude).absolute = Numeric.valueOf 23 (-149) magnitude := by
  rw [absolute, magnitude_ofMagnitude hlt]

theorem absolute_lt_iff {s t : Score} : s.absolute < t.absolute ↔ s.magnitude < t.magnitude :=
  Numeric.valueOf_strictMono.lt_iff_lt

namespace IsNearest

variable {negative : Bool} {number : ℚ} {s t : Score}

/-- Between two even magnitudes there is an odd one, which would be nearer than one of them. -/
theorem not_lt (hs : s.IsNearest negative number) (ht : t.IsNearest negative number)
    (hnumber : number < 2 ^ 128 - 2 ^ 103) : ¬ s.magnitude < t.magnitude := by
  intro hlt
  have hvalues := absolute_lt_iff.2 hlt
  have hsFinite := hs.isFinite hnumber
  have htFinite := ht.isFinite hnumber
  have hequal : |t.absolute - number| = |s.absolute - number| :=
    le_antisymm (ht.le hnumber s hsFinite) (hs.le hnumber t htFinite)
  have hsEven := hs.even hnumber t htFinite hvalues.ne' hequal
  have htEven := ht.even hnumber s hsFinite hvalues.ne hequal.symm
  have hinfinity : t.magnitude < 255 * 2 ^ 23 := htFinite
  obtain ⟨between, hbetween⟩ : ∃ between : Score, between.magnitude = s.magnitude + 1 :=
    ⟨ofMagnitude false (s.magnitude + 1), magnitude_ofMagnitude (by omega)⟩
  have hfinite : between.IsFinite := by
    rw [IsFinite, hbetween]
    omega
  have hlow : s.absolute < between.absolute := absolute_lt_iff.2 (by omega)
  have hhigh : between.absolute < t.absolute := by
    rw [absolute_lt_iff, hbetween]
    obtain ⟨a, ha⟩ := hsEven
    obtain ⟨b, hb⟩ := htEven
    omega
  obtain hside | hside := le_total number between.absolute
  · have hnear := ht.le hnumber between hfinite
    rw [abs_of_nonneg (by linarith : 0 ≤ between.absolute - number)] at hnear
    linarith [le_abs_self (t.absolute - number)]
  · have hnear := hs.le hnumber between hfinite
    rw [abs_of_nonpos (by linarith : between.absolute - number ≤ 0)] at hnear
    linarith [neg_le_abs (s.absolute - number)]

/-- There is one nearest score. -/
theorem unique (hs : s.IsNearest negative number) (ht : t.IsNearest negative number) : s = t := by
  apply eq_of_magnitude_eq (hs.isNegative_eq.trans ht.isNegative_eq.symm)
  obtain hnumber | hnumber := lt_or_ge number (2 ^ 128 - 2 ^ 103)
  · apply Nat.le_antisymm
    · exact Nat.not_lt.1 (ht.not_lt hs hnumber)
    · exact Nat.not_lt.1 (hs.not_lt ht hnumber)
  · exact (hs.isInfinite hnumber).trans (ht.isInfinite hnumber).symm

end IsNearest

/-- Half way to `2 ^ 128` from the greatest number below it. -/
theorem valueOf_add_valueOf_infinity :
    Numeric.valueOf 23 (-149) (255 * 2 ^ 23 - 1) +
        Numeric.valueOf 23 (-149) (255 * 2 ^ 23 - 1 + 1) =
      2 * (2 ^ 128 - 2 ^ 103) := by
  norm_num [Numeric.valueOf]

theorem isNearest_ofMagnitude {negative : Bool} {number : ℚ} {magnitude : Nat}
    (hnearest : Numeric.IsNearest (Numeric.valueOf 23 (-149)) number magnitude) :
    (ofMagnitude negative (min Numeric.binary32.infinity magnitude)).IsNearest negative number := by
  have hinfinity : Numeric.binary32.infinity = 255 * 2 ^ 23 := rfl
  have hlast := hnearest.le_iff_of_odd Numeric.valueOf_strictMono (255 * 2 ^ 23 - 1) (by decide)
  rw [valueOf_add_valueOf_infinity, mul_lt_mul_iff_right₀ two_pos] at hlast
  have hword : min Numeric.binary32.infinity magnitude < 2 ^ 31 := by omega
  have hinner (hnumber : number < 2 ^ 128 - 2 ^ 103) :
      min Numeric.binary32.infinity magnitude = magnitude := by
    have hle := hlast.2 hnumber
    omega
  constructor
  case isNegative_eq => exact isNegative_ofMagnitude hword
  case isFinite =>
    intro hnumber
    have hle := hlast.2 hnumber
    rw [IsFinite, magnitude_ofMagnitude hword]
    omega
  case le =>
    intro hnumber t _
    rw [absolute_ofMagnitude hword, hinner hnumber]
    exact hnearest.le t.magnitude
  case even =>
    intro hnumber t _ hne htie
    rw [absolute_ofMagnitude hword, hinner hnumber] at hne htie
    rw [magnitude_ofMagnitude hword, hinner hnumber]
    exact hnearest.even t.magnitude (fun heq => hne (by rw [absolute, heq])) htie
  case isInfinite =>
    intro hnumber
    have hnot := mt hlast.1 (not_lt.2 hnumber)
    rw [IsInfinite, magnitude_ofMagnitude hword]
    omega

/-- Integers are read as the nearest scores. -/
theorem isNearest_ofInt (n : Int) : (ofInt n).IsNearest (decide (n < 0)) |(n : ℚ)| := by
  obtain ⟨magnitude, hround, hnearest⟩ := Numeric.binary32.exists_isNearest_of_round
    (rfl : Numeric.binary32.precision = 23 + 1) (by omega) n.natAbs Nat.one_pos
  rw [Nat.cast_one, div_one, Nat.cast_natAbs, Int.cast_abs] at hnearest
  rw [ofInt, hround]
  exact isNearest_ofMagnitude hnearest

/-- The least integer between two scores goes to the even one, which is below it. -/
example : ofInt (2 ^ 24 + 1) = ofInt (2 ^ 24) := by
  decide

end Score

/-- The absolute value of a number with 64 bits, 52 of which are its fraction. -/
def Numeric.Double.absolute (x : Numeric.Double) : ℚ :=
  Numeric.valueOf 52 (-1074) x.magnitude

/-- Numbers with 64 bits are read as the nearest scores. -/
theorem Score.isNearest_ofDouble (x : Numeric.Double) :
    (ofDouble x).IsNearest x.negative x.absolute := by
  obtain ⟨magnitude, hround, hnearest⟩ := Numeric.binary32.exists_isNearest_of_ofDyadic
    (rfl : Numeric.binary32.precision = 23 + 1) (by omega) x.value
  rw [Numeric.Double.value,
    Numeric.binary64.value_eq (rfl : Numeric.binary64.precision = 52 + 1)] at hnearest
  rw [ofDouble, hround]
  exact isNearest_ofMagnitude hnearest

namespace JsonNumber

/-- Whether a number has a minus sign, which a zero may have. -/
def isNegative : JsonNumber → Bool
  | integer n => decide (n < 0)
  | double x => x.negative

def absolute : JsonNumber → ℚ
  | integer n => |(n : ℚ)|
  | double x => x.absolute

/-- The score is the one nearest to the number. -/
def Nearest (number : JsonNumber) (score : Score) : Prop :=
  score.IsNearest number.isNegative number.absolute

theorem nearest_integer_iff {n : Int} {score : Score} :
    (integer n).Nearest score ↔ Score.ofInt n = score := by
  constructor
  · exact (Score.isNearest_ofInt n).unique
  · rintro rfl
    exact Score.isNearest_ofInt n

theorem nearest_double_iff {x : Numeric.Double} {score : Score} :
    (double x).Nearest score ↔ Score.ofDouble x = score := by
  constructor
  · exact (Score.isNearest_ofDouble x).unique
  · rintro rfl
    exact Score.isNearest_ofDouble x

end JsonNumber

end Rerank
