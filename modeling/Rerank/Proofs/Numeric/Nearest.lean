import Mathlib
import Rerank.Numeric.Binary

/-!
# Rounding is to the nearest number

The numbers of a binary format are the values of a function that increases with the magnitude.  It
is said here what it is for a magnitude to be nearest to a quotient, a tie going to the even one,
and rounding gives that magnitude.  Beyond the greatest finite number the magnitudes are taken to go
on as they do below it, so that infinity is the first of them.
-/

namespace Rerank.Numeric

/-- The number with a magnitude, in a format with `digits` bits of fraction and the least positive
number `2 ^ least`.  What the bits above the fraction give is an exponent, and where they are zero
the significand has no leading one. -/
def valueOf (digits : Nat) (least : Int) (magnitude : Nat) : ℚ :=
  if magnitude / 2 ^ digits = 0 then magnitude * 2 ^ least
  else
    (2 ^ digits + magnitude % 2 ^ digits : Nat) * 2 ^ (least + (magnitude / 2 ^ digits - 1 : Nat))

/-- No magnitude has a value nearer to the number, and if another one is as near, this one is
even. -/
structure IsNearest (value : Nat → ℚ) (number : ℚ) (magnitude : Nat) : Prop where
  le : ∀ other, |value magnitude - number| ≤ |value other - number|
  even : ∀ other ≠ magnitude, |value other - number| = |value magnitude - number| → Even magnitude

section Grid

variable {digits : Nat} {least : Int}

/-- Each run of significands may be continued to the power of two after it. -/
theorem valueOf_eq {shift significand : Nat} (hleading : shift = 0 ∨ 2 ^ digits ≤ significand)
    (hle : significand ≤ 2 ^ (digits + 1)) :
    valueOf digits least (shift * 2 ^ digits + significand) =
      significand * 2 ^ (least + shift) := by
  have hunit : 0 < 2 ^ digits := Nat.two_pow_pos digits
  have hdouble : 2 ^ (digits + 1) = 2 * 2 ^ digits := Nat.pow_succ'
  obtain hlow | hhigh := Nat.lt_or_ge significand (2 ^ digits)
  · obtain rfl : shift = 0 := by omega
    simp [valueOf, Nat.div_eq_of_lt hlow]
  obtain hlt | htop := Nat.lt_or_ge significand (2 * 2 ^ digits)
  · have hquotient : (shift * 2 ^ digits + significand) / 2 ^ digits = shift + 1 := by
      rw [Nat.div_eq_iff hunit]
      constructor <;> rw [Nat.add_mul] <;> omega
    have hremainder : (shift * 2 ^ digits + significand) % 2 ^ digits =
        significand - 2 ^ digits := by
      rw [Nat.mul_add_mod_self_right, Nat.mod_eq_sub_mod hhigh, Nat.mod_eq_of_lt (by omega)]
    rw [valueOf, hquotient, hremainder, if_neg (by omega), Nat.add_sub_cancel,
      Nat.add_sub_cancel' hhigh]
  · -- The power of two after a run is the first of the next one.
    obtain rfl : significand = 2 * 2 ^ digits := by omega
    have hmagnitude : shift * 2 ^ digits + 2 * 2 ^ digits = (shift + 2) * 2 ^ digits := by ring
    rw [hmagnitude, valueOf, Nat.mul_div_cancel _ hunit, Nat.mul_mod_left, if_neg (by omega)]
    have hexponent : least + ((shift + 2 - 1 : Nat) : Int) = least + shift + 1 := by omega
    rw [hexponent, zpow_add_one₀ (by norm_num)]
    push_cast
    ring

/-- Every magnitude is in one of the runs. -/
theorem exists_shift (digits magnitude : Nat) : ∃ shift significand,
    magnitude = shift * 2 ^ digits + significand ∧ (shift = 0 ∨ 2 ^ digits ≤ significand) ∧
      significand < 2 ^ (digits + 1) := by
  have hunit : 0 < 2 ^ digits := Nat.two_pow_pos digits
  have hdouble : 2 ^ (digits + 1) = 2 * 2 ^ digits := Nat.pow_succ'
  have hlt := Nat.mod_lt magnitude hunit
  have hdiv := Nat.div_add_mod' magnitude (2 ^ digits)
  cases hquotient : magnitude / 2 ^ digits with
  | zero =>
    rw [hquotient] at hdiv
    exact ⟨0, magnitude, by omega, .inl rfl, by omega⟩
  | succ shift =>
    rw [hquotient, Nat.add_mul] at hdiv
    exact ⟨shift, 2 ^ digits + magnitude % 2 ^ digits, by omega, .inr (by omega), by omega⟩

theorem valueOf_strictMono : StrictMono (valueOf digits least) := by
  refine strictMono_nat_of_lt_succ fun magnitude => ?_
  obtain ⟨shift, significand, rfl, hleading, hlt⟩ := exists_shift digits magnitude
  rw [Nat.add_assoc, valueOf_eq hleading hlt.le, valueOf_eq (by omega) hlt]
  have hpower : (0 : ℚ) < 2 ^ (least + shift) := zpow_pos (by norm_num) _
  push_cast
  linarith

end Grid

section Nearest

variable {value : Nat → ℚ} {number : ℚ} {magnitude : Nat}

/-- The magnitudes below a number are as far from it as the last of them, or farther. -/
theorem distance_of_le (hvalue : StrictMono value) {low other : Nat} (hlow : value low ≤ number)
    (hother : other ≤ low) :
    number - value low ≤ |value other - number| ∧
      (|value other - number| = number - value low → other = low) := by
  have hle := hvalue.monotone hother
  rw [abs_of_nonpos (by linarith)]
  exact ⟨by linarith, fun htie => hvalue.injective (by linarith)⟩

/-- The magnitudes above a number are as far from it as the first of them, or farther. -/
theorem distance_of_ge (hvalue : StrictMono value) {high other : Nat} (hhigh : number ≤ value high)
    (hother : high ≤ other) :
    value high - number ≤ |value other - number| ∧
      (|value other - number| = value high - number → other = high) := by
  have hle := hvalue.monotone hother
  rw [abs_of_nonneg (by linarith)]
  exact ⟨by linarith, fun htie => hvalue.injective (by linarith)⟩

/-- Of the two magnitudes around a number one is the nearest of all. -/
theorem isNearest_of_between (hvalue : StrictMono value) (low : Nat) (hlow : value low ≤ number)
    (hhigh : number < value (low + 1))
    (hchoice : magnitude = low ∧ 2 * number ≤ value low + value (low + 1) ∧
        (2 * number = value low + value (low + 1) → Even low) ∨
      magnitude = low + 1 ∧ value low + value (low + 1) ≤ 2 * number ∧
        (2 * number = value low + value (low + 1) → Even (low + 1))) :
    IsNearest value number magnitude := by
  have hlowDistance : |value low - number| = number - value low := by
    rw [abs_of_nonpos (by linarith)]
    ring
  have hhighDistance : |value (low + 1) - number| = value (low + 1) - number :=
    abs_of_nonneg (by linarith)
  have hbelow (other : Nat) (hother : other ≤ low) := distance_of_le hvalue hlow hother
  have habove (other : Nat) (hother : low + 1 ≤ other) := distance_of_ge hvalue hhigh.le hother
  obtain ⟨rfl, hnear, heven⟩ | ⟨rfl, hnear, heven⟩ := hchoice
  · constructor
    · intro other
      rw [hlowDistance]
      obtain hother | hother := Nat.lt_or_ge magnitude other
      · linarith [(habove other hother).1]
      · exact (hbelow other hother).1
    · intro other hne htie
      rw [hlowDistance] at htie
      obtain hother | hother := Nat.lt_or_ge magnitude other
      · exact heven (by linarith [(habove other hother).1])
      · exact absurd ((hbelow other hother).2 htie) hne
  · constructor
    · intro other
      rw [hhighDistance]
      obtain hother | hother := Nat.lt_or_ge low other
      · exact (habove other hother).1
      · linarith [(hbelow other hother).1]
    · intro other hne htie
      rw [hhighDistance] at htie
      obtain hother | hother := Nat.lt_or_ge low other
      · exact absurd ((habove other hother).2 htie) hne
      · exact heven (by linarith [(hbelow other hother).1])

/-- Half way between an odd magnitude and the next one rounding goes beyond the odd one. -/
theorem IsNearest.le_iff_of_odd (hnearest : IsNearest value number magnitude)
    (hvalue : StrictMono value) (last : Nat) (hodd : Odd last) :
    magnitude ≤ last ↔ 2 * number < value last + value (last + 1) := by
  have hstep := hvalue (Nat.lt_succ_self last)
  constructor
  · intro hle
    by_contra hbeyond
    rw [not_lt] at hbeyond
    -- The next magnitude is as near as the odd one, so the odd one is not the nearest.
    obtain ⟨hfar, hsame⟩ := distance_of_le hvalue (by linarith) hle
    have hnext : |value (last + 1) - number| ≤ number - value last :=
      abs_le.2 ⟨by linarith, by linarith⟩
    have hnear := hnearest.le (last + 1)
    obtain rfl : magnitude = last := hsame (by linarith)
    refine Nat.not_even_iff_odd.2 hodd (hnearest.even (magnitude + 1) (by omega) ?_)
    linarith
  · intro hbefore
    by_contra hbeyond
    obtain ⟨hfar, -⟩ := distance_of_ge hvalue (by linarith) (Nat.succ_le_of_lt (not_le.1 hbeyond))
    have hlast : |value last - number| < value (last + 1) - number :=
      abs_lt.2 ⟨by linarith, by linarith⟩
    linarith [hnearest.le last]

end Nearest

/-- A quotient of natural numbers is rounded to one of its two neighbours. -/
theorem divEven_cases (num den : Nat) :
    divEven num den = num / den ∧ 2 * num ≤ (2 * (num / den) + 1) * den ∧
        (2 * num = (2 * (num / den) + 1) * den → Even (num / den)) ∨
      divEven num den = num / den + 1 ∧ (2 * (num / den) + 1) * den ≤ 2 * num ∧
        (2 * num = (2 * (num / den) + 1) * den → Even (num / den + 1)) := by
  have hdiv := Nat.div_add_mod' num den
  have hexpand : (2 * (num / den) + 1) * den = 2 * (num / den * den) + den := by ring
  rw [hexpand, divEven]
  generalize num / den = quotient at *
  generalize quotient * den = product at *
  split_ifs with hless hmore
  · exact .inl ⟨rfl, by omega, by omega⟩
  · exact .inr ⟨rfl, by omega, by omega⟩
  · obtain heven | hodd := Nat.even_or_odd quotient
    · exact .inl ⟨by rw [Nat.even_iff.1 heven, Nat.add_zero], by omega, fun _ => heven⟩
    · exact .inr ⟨by rw [Nat.odd_iff.1 hodd], by omega, fun _ => hodd.add_one⟩

theorem scale_pos (num : Nat) {den : Nat} (hden : 0 < den) (exponent : Int) :
    0 < (scale num den exponent).2 := by
  cases exponent with
  | ofNat k => exact Nat.mul_pos hden (Nat.two_pow_pos k)
  | negSucc k => exact hden

theorem scale_div (num den : Nat) (exponent : Int) :
    ((scale num den exponent).1 : ℚ) / (scale num den exponent).2 = num / den / 2 ^ exponent := by
  cases exponent with
  | ofNat k =>
    simp only [scale, Nat.pow_eq, Int.ofNat_eq_natCast, zpow_natCast]
    push_cast
    rw [div_mul_eq_div_div]
  | negSucc k =>
    simp only [scale, Nat.pow_eq, zpow_negSucc, div_inv_eq_mul]
    push_cast
    ring

theorem scale_div_lt_iff (num : Nat) {den : Nat} (hden : 0 < den) (exponent : Int) (bound : Nat) :
    (scale num den exponent).1 / (scale num den exponent).2 < bound ↔
      (num / den : ℚ) < bound * 2 ^ exponent := by
  have hpos := scale_pos num hden exponent
  rw [Nat.div_lt_iff_lt_mul hpos, ← div_lt_iff₀ (zpow_pos two_pos exponent), ← scale_div,
    div_lt_iff₀ (by exact_mod_cast hpos)]
  exact_mod_cast Iff.rfl

/-- The lengths of two numbers bound their quotient from both sides. -/
theorem zpow_log2_bounds {num den : Nat} (hnum : 0 < num) (hden : 0 < den) :
    (2 : ℚ) ^ ((num.log2 : Int) - (den.log2 + 1 : Nat)) ≤ num / den ∧
      (num / den : ℚ) < 2 ^ (((num.log2 + 1 : Nat) : Int) - den.log2) := by
  simp only [zpow_sub₀ (two_ne_zero : (2 : ℚ) ≠ 0), zpow_natCast]
  constructor
  · apply div_le_div₀ (by positivity) _ (by exact_mod_cast hden)
    · exact_mod_cast Nat.lt_log2_self.le
    · exact_mod_cast Nat.log2_self_le hnum.ne'
  · apply div_lt_div₀ _ _ (by positivity) (by positivity)
    · exact_mod_cast Nat.lt_log2_self
    · exact_mod_cast Nat.log2_self_le hden.ne'

/-- A quotient whose floor fits into a run of significands is rounded within it, or to the power of
two after it. -/
theorem isNearest_divEven {digits shift n d : Nat} (least : Int) (hdigits : 0 < digits)
    (hd : 0 < d) (hleading : shift = 0 ∨ 2 ^ digits ≤ n / d) (hfits : n / d < 2 ^ (digits + 1)) :
    IsNearest (valueOf digits least) (n / d * 2 ^ (least + shift))
      (shift * 2 ^ digits + divEven n d) := by
  have hlow : valueOf digits least (shift * 2 ^ digits + n / d) =
      (n / d : Nat) * 2 ^ (least + shift) := valueOf_eq hleading hfits.le
  have hhigh : valueOf digits least (shift * 2 ^ digits + n / d + 1) =
      (n / d + 1 : Nat) * 2 ^ (least + shift) :=
    valueOf_eq (hleading.imp_right Nat.le_succ_of_le) hfits
  have hden : (0 : ℚ) < d := by exact_mod_cast hd
  have hpower : (0 : ℚ) < 2 ^ (least + shift) := zpow_pos two_pos _
  apply isNearest_of_between valueOf_strictMono (shift * 2 ^ digits + n / d)
  · rw [hlow]
    exact mul_le_mul_of_nonneg_right Nat.cast_div_le hpower.le
  · rw [hhigh]
    apply mul_lt_mul_of_pos_right _ hpower
    rw [div_lt_iff₀ hden]
    exact_mod_cast (Nat.div_lt_iff_lt_mul hd).1 (Nat.lt_succ_self (n / d))
  · -- Twice the quotient is compared with an odd multiple of the denominator.
    have hunit : (0 : ℚ) < 2 ^ (least + shift) / d := div_pos hpower hden
    have htwice : 2 * ((n / d : ℚ) * 2 ^ (least + shift)) =
        (2 * n : Nat) * (2 ^ (least + shift) / d) := by
      push_cast
      ring
    have hmiddle : valueOf digits least (shift * 2 ^ digits + n / d) +
        valueOf digits least (shift * 2 ^ digits + n / d + 1) =
          ((2 * (n / d) + 1) * d : Nat) * (2 ^ (least + shift) / d) := by
      rw [hlow, hhigh]
      push_cast
      field_simp
      ring
    have heven : Even (shift * 2 ^ digits) := (Nat.even_pow.2 ⟨even_two, hdigits.ne'⟩).mul_left _
    rw [htwice, hmiddle, mul_le_mul_iff_left₀ hunit, mul_le_mul_iff_left₀ hunit,
      mul_left_inj' hunit.ne', Nat.cast_le, Nat.cast_le, Nat.cast_inj]
    obtain ⟨hchosen, hnear, htie⟩ | ⟨hchosen, hnear, htie⟩ := divEven_cases n d
    · exact .inl ⟨by rw [hchosen], hnear, fun h => heven.add (htie h)⟩
    · exact .inr ⟨by rw [hchosen, Nat.add_assoc], hnear, fun h => heven.add (htie h)⟩

theorem isNearest_zero (digits : Nat) (least : Int) : IsNearest (valueOf digits least) 0 0 := by
  have hzero : valueOf digits least 0 = 0 := by simp [valueOf]
  have hone : valueOf digits least 0 < valueOf digits least 1 := valueOf_strictMono Nat.zero_lt_one
  rw [hzero] at hone
  apply isNearest_of_between valueOf_strictMono 0 hzero.le hone
  exact .inl ⟨rfl, by rw [hzero]; linarith, fun _ => Even.zero⟩

namespace Format

variable (f : Format) {num den : Nat}

/-- The exponent at which a positive quotient fills the precision of a format, or the least one. -/
theorem exponentOf_bounds {digits : Nat} (hprecision : f.precision = digits + 1) (hnum : 0 < num)
    (hden : 0 < den) :
    ∃ exponent : Int, f.exponentOf num den = max f.minExponent exponent ∧
      ((2 ^ digits : Nat) : ℚ) * 2 ^ exponent ≤ num / den ∧
      (num / den : ℚ) < (2 ^ (digits + 1) : Nat) * 2 ^ exponent := by
  -- The lengths of the two numbers give the exponent, or the one below it.
  obtain ⟨guess, hguess⟩ : ∃ guess : Int, guess = (num.log2 : Int) - den.log2 - f.precision :=
    ⟨_, rfl⟩
  obtain ⟨hlow, hhigh⟩ := zpow_log2_bounds hnum hden
  have hlowest : (num.log2 : Int) - (den.log2 + 1 : Nat) = digits + guess := by omega
  have hhighest : ((num.log2 + 1 : Nat) : Int) - den.log2 = (digits + 1 : Nat) + (guess + 1) := by
    omega
  rw [hlowest, zpow_add₀ two_ne_zero, zpow_natCast] at hlow
  rw [hhighest, zpow_add₀ two_ne_zero, zpow_natCast] at hhigh
  have hfits := scale_div_lt_iff num hden guess (2 ^ (digits + 1))
  rw [exponentOf, ← hguess, hprecision]
  dsimp only
  push_cast at hfits ⊢
  split_ifs with hless
  · exact ⟨guess, rfl, hlow, hfits.1 hless⟩
  · refine ⟨guess + 1, rfl, ?_, hhigh⟩
    rw [zpow_add_one₀ two_ne_zero]
    have hnot := not_lt.1 (mt hfits.2 hless)
    rw [pow_succ] at hnot
    linarith

/-- At that exponent the floor of the quotient is a significand. -/
theorem scale_exponentOf {digits : Nat} (hprecision : f.precision = digits + 1) (hnum : 0 < num)
    (hden : 0 < den) {n d : Nat} (hscale : scale num den (f.exponentOf num den) = (n, d)) :
    n / d < 2 ^ (digits + 1) ∧ (f.exponentOf num den = f.minExponent ∨ 2 ^ digits ≤ n / d) := by
  obtain ⟨exponent, hexponent, hlow, hhigh⟩ := f.exponentOf_bounds hprecision hnum hden
  have hlt := scale_div_lt_iff num hden (f.exponentOf num den)
  simp only [hscale] at hlt
  rw [hlt, ← Nat.not_lt, hlt, hexponent, not_lt]
  constructor
  · apply hhigh.trans_le
    exact mul_le_mul_of_nonneg_left (zpow_le_zpow_right₀ one_le_two (le_max_right _ _))
      (Nat.cast_nonneg _)
  · obtain hle | hle := le_total exponent f.minExponent
    · exact .inl (max_eq_left hle)
    · exact .inr (by rwa [max_eq_right hle])

/-- Rounding gives the magnitude that is nearest, or infinity where that is beyond it. -/
theorem exists_isNearest_of_round {digits : Nat} (hprecision : f.precision = digits + 1)
    (hdigits : 0 < digits) (num : Nat) (hden : 0 < den) :
    ∃ magnitude, f.round num den = min f.infinity magnitude ∧
      IsNearest (valueOf digits f.minExponent) (num / den) magnitude := by
  obtain rfl | hnum := Nat.eq_zero_or_pos num
  · refine ⟨0, by simp [round], ?_⟩
    rw [Nat.cast_zero, zero_div]
    exact isNearest_zero digits f.minExponent
  rcases hscale : scale num den (f.exponentOf num den) with ⟨n, d⟩
  obtain ⟨exponent, hexponent, -⟩ := f.exponentOf_bounds hprecision hnum hden
  obtain ⟨hfits, hfull⟩ := f.scale_exponentOf hprecision hnum hden hscale
  have hround : f.round num den = min f.infinity
      ((f.exponentOf num den - f.minExponent).toNat * 2 ^ digits + divEven n d) := by
    rw [round, if_neg hnum.ne', hprecision, Nat.add_sub_cancel]
    simp only [hscale]
    rfl
  refine ⟨_, hround, ?_⟩
  have hpos := scale_pos num hden (f.exponentOf num den)
  have hdiv := scale_div num den (f.exponentOf num den)
  rw [hscale] at hpos hdiv
  obtain ⟨shift, hshift⟩ : ∃ shift : Nat, f.exponentOf num den = f.minExponent + shift :=
    ⟨(f.exponentOf num den - f.minExponent).toNat, by omega⟩
  rw [hshift] at hdiv hfull ⊢
  rw [add_sub_cancel_left, Int.toNat_natCast]
  rw [eq_div_iff (zpow_pos two_pos _).ne'] at hdiv
  rw [← hdiv]
  exact isNearest_divEven f.minExponent hdigits hpos (hfull.imp_left (by omega)) hfits

/-- The value of a magnitude is that of the dyadic number it is read as. -/
theorem value_eq {digits : Nat} (hprecision : f.precision = digits + 1) (magnitude : Nat) :
    ((f.value magnitude).significand * 2 ^ (f.value magnitude).exponent : ℚ) =
      valueOf digits f.minExponent magnitude := by
  rw [value, valueOf, hprecision, Nat.add_sub_cancel]
  dsimp only [Nat.pow_eq]
  split_ifs
  · rfl
  · rw [Nat.add_comm]

/-- Dyadic numbers are rounded as the quotients that they are. -/
theorem exists_isNearest_of_ofDyadic {digits : Nat} (hprecision : f.precision = digits + 1)
    (hdigits : 0 < digits) (x : Dyadic) :
    ∃ magnitude, f.ofDyadic x = min f.infinity magnitude ∧
      IsNearest (valueOf digits f.minExponent) (x.significand * 2 ^ x.exponent) magnitude := by
  have hquotient := scale_div x.significand 1 (-x.exponent)
  rw [Nat.cast_one, div_one, zpow_neg, div_inv_eq_mul] at hquotient
  rw [← hquotient]
  exact f.exists_isNearest_of_round hprecision hdigits _ (scale_pos _ Nat.one_pos _)

end Format

end Rerank.Numeric
