import Mathlib

/-!
# Rounding to a floating-point format

The numbers of a format that are not negative are counted from zero on, in their order: the number
at a place is `value`, and the place of the number nearest to a rational is `place`. This place
is also what the bits of the number are when they are read as a whole number, where the format has
room for it.

Rounding keeps the order of rationals (`place_mono`), and does not change the numbers of the format
(`place_value`).
-/

namespace PageSearch
namespace Rounding

open Float.Model (Format)

/-- The whole number nearest to a rational that is not negative, a tie going to the even one. -/
def nearest (x : ℚ) : ℕ :=
  if x < ⌊x⌋₊ + 1 / 2 then ⌊x⌋₊
  else if x = ⌊x⌋₊ + 1 / 2 then ⌊x⌋₊ + ⌊x⌋₊ % 2
  else ⌊x⌋₊ + 1

section nearest

variable {x y : ℚ} {n : ℕ}

/-- The nearest whole number is not less than the one below. -/
lemma floor_le_nearest (x : ℚ) : ⌊x⌋₊ ≤ nearest x := by
  unfold nearest
  split_ifs <;> omega

/-- It is not greater than the next one. -/
lemma nearest_le_floor_succ (x : ℚ) : nearest x ≤ ⌊x⌋₊ + 1 := by
  unfold nearest
  split_ifs <;> omega

/-- A greater rational has no smaller nearest number. -/
lemma nearest_mono (le : x ≤ y) : nearest x ≤ nearest y := by
  have floors : ⌊x⌋₊ ≤ ⌊y⌋₊ := Nat.floor_mono le
  -- With two floors one of them lies between; with one floor the remainders decide.
  rcases floors.lt_or_eq with lt | eq
  · calc nearest x
      _ ≤ ⌊x⌋₊ + 1 := nearest_le_floor_succ x
      _ ≤ ⌊y⌋₊ := lt
      _ ≤ nearest y := floor_le_nearest y
  · unfold nearest
    rw [eq]
    split_ifs <;> grind

/-- A whole number is nearest to itself. -/
lemma nearest_natCast (n : ℕ) : nearest n = n := by
  unfold nearest
  rw [Nat.floor_natCast, if_pos (by linarith)]

/-- What is at most a whole number is not rounded above it. -/
lemma nearest_le (le : x ≤ n) : nearest x ≤ n :=
  (nearest_mono le).trans (nearest_natCast n).le

/-- What is at least a whole number is not rounded below it. -/
lemma le_nearest (le : n ≤ x) : n ≤ nearest x :=
  (nearest_natCast n).ge.trans (nearest_mono le)

end nearest

/-- How many bits a format keeps of a number after the first one. -/
abbrev fractionBits (S : Format) : ℕ :=
  S.mantissaBitsWithoutImplicit

/-- Numbers like `x` are rounded to whole multiples of 2 to the `e`. -/
structure Grain (S : Format) (x : ℚ) (e : ℤ) : Prop where
  least : S.minExponent ≤ e
  lt : x < 2 ^ (fractionBits S + 1) * (2 : ℚ) ^ e
  normal : e = S.minExponent ∨ 2 ^ fractionBits S * (2 : ℚ) ^ e ≤ x

/-- The exponent for which this is so. -/
def grain (S : Format) (x : ℚ) : ℤ :=
  if x = 0 then S.minExponent else S.targetExponent (Int.log 2 x + 1)

section grain

variable {S : Format} {x y : ℚ} {e e' : ℤ} {k : ℕ}

/-- Powers of two are multiplied whether their exponents may be negative or not. -/
lemma pow_mul_zpow (k : ℕ) (e : ℤ) : (2 : ℚ) ^ k * 2 ^ e = 2 ^ (k + e) := by
  rw [zpow_add₀ two_ne_zero, zpow_natCast]

/-- The exponent keeps all digits of the format, unless it would be too small. -/
lemma targetExponent_eq (S : Format) (t : ℤ) :
    S.targetExponent t = max (t - (fractionBits S + 1)) S.minExponent := by
  simp only [Format.targetExponent, Format.mantissaBits]
  push_cast
  ring_nf

/-- The exponent for a number of which the number of binary digits is known. -/
lemma grain_targetExponent {t : ℤ} (le : (2 : ℚ) ^ (t - 1) ≤ x) (lt : x < 2 ^ t) :
    Grain S x (S.targetExponent t) := by
  rw [targetExponent_eq]
  refine ⟨le_max_right _ _, ?_, ?_⟩
  · rw [pow_mul_zpow]
    refine lt.trans_le (zpow_le_zpow_right₀ one_le_two ?_)
    push_cast
    have := le_max_left (t - (fractionBits S + 1 : ℤ)) S.minExponent
    linarith
  · rcases le_total (t - (fractionBits S + 1 : ℤ)) S.minExponent with small | large
    · exact .inl (max_eq_right small)
    · rw [max_eq_left large, pow_mul_zpow]
      refine .inr ((zpow_le_zpow_right₀ one_le_two ?_).trans le)
      linarith

/-- It is such an exponent. -/
lemma grain_grain (nonneg : 0 ≤ x) : Grain S x (grain S x) := by
  unfold grain
  split_ifs with zero
  · refine ⟨le_rfl, ?_, .inl rfl⟩
    rw [zero]
    positivity
  · have pos : 0 < x := lt_of_le_of_ne nonneg (Ne.symm zero)
    refine grain_targetExponent ?_ ?_
    · rw [add_sub_cancel_right]
      exact Int.zpow_log_le_self one_lt_two pos
    · exact Int.lt_zpow_succ_log_self one_lt_two x

/-- Greater numbers are not rounded to smaller multiples. -/
lemma Grain.mono (one : Grain S x e) (other : Grain S y e') (le : x ≤ y) : e ≤ e' := by
  rcases one.normal with least | normal
  · exact least ▸ other.least
  · have lt := (normal.trans le).trans_lt other.lt
    rw [pow_mul_zpow, pow_mul_zpow, zpow_lt_zpow_iff_right₀ one_lt_two] at lt
    push_cast at lt
    linarith

/-- It is the only one. -/
lemma Grain.eq (one : Grain S x e) (nonneg : 0 ≤ x) : grain S x = e :=
  le_antisymm ((grain_grain nonneg).mono one le_rfl) (one.mono (grain_grain nonneg) le_rfl)

end grain

/-- A whole number and an exponent that a format uses together. -/
structure Fits (S : Format) (m : ℕ) (e : ℤ) : Prop where
  least : S.minExponent ≤ e
  lt : m < 2 ^ (fractionBits S + 1)
  normal : e = S.minExponent ∨ 2 ^ fractionBits S ≤ m

/-- The place among the numbers of a format of `m` times 2 to the `e`. -/
def placeOf (S : Format) (m : ℕ) (e : ℤ) : ℕ :=
  (e - S.minExponent).toNat * 2 ^ fractionBits S + m

/-- The place of the number nearest to a rational that is not negative. -/
def place (S : Format) (x : ℚ) : ℕ :=
  placeOf S (nearest (x / 2 ^ grain S x)) (grain S x)

/-- The number at a place as a multiple of the least one. -/
def units (S : Format) (n : ℕ) : ℕ :=
  if n < 2 ^ fractionBits S then n
  else (2 ^ fractionBits S + n % 2 ^ fractionBits S) * 2 ^ (n / 2 ^ fractionBits S - 1)

/-- The number at a place. -/
def value (S : Format) (n : ℕ) : ℚ :=
  units S n * 2 ^ S.minExponent

section place

variable {S : Format} {x y : ℚ} {m n k : ℕ} {e : ℤ}

/-- The number that a format has of `m` and `e` is rounded to multiples of 2 to the `e`. -/
lemma Fits.grain (fits : Fits S m e) : grain S (m * 2 ^ e) = e := by
  refine Grain.eq ⟨fits.least, ?_, fits.normal.imp_right fun normal => ?_⟩ (by positivity)
  · have lt : (m : ℚ) < 2 ^ (fractionBits S + 1) := by exact_mod_cast fits.lt
    gcongr
  · have le : (2 : ℚ) ^ fractionBits S ≤ m := by exact_mod_cast normal
    gcongr

/-- The numbers of a format are not changed by rounding. -/
lemma Fits.place (fits : Fits S m e) : place S (m * 2 ^ e) = placeOf S m e := by
  have ne : (2 : ℚ) ^ e ≠ 0 := by positivity
  rw [Rounding.place, fits.grain, mul_div_cancel_right₀ _ ne, nearest_natCast]

/-- Rounding gives at most one digit too many. -/
lemma nearest_quotient_le (nonneg : 0 ≤ x) :
    nearest (x / 2 ^ Rounding.grain S x) ≤ 2 ^ (fractionBits S + 1) := by
  refine nearest_le ?_
  rw [div_le_iff₀ (by positivity)]
  exact_mod_cast (grain_grain nonneg).lt.le

/-- It gives all digits, but for the least numbers. -/
lemma le_nearest_quotient (nonneg : 0 ≤ x) (normal : Rounding.grain S x ≠ S.minExponent) :
    2 ^ fractionBits S ≤ nearest (x / 2 ^ Rounding.grain S x) := by
  refine le_nearest ?_
  rw [le_div_iff₀ (by positivity)]
  exact_mod_cast (grain_grain nonneg).normal.resolve_left normal

/-- Rounding keeps the order. -/
theorem place_mono (nonneg : 0 ≤ x) (le : x ≤ y) : Rounding.place S x ≤ Rounding.place S y := by
  have nonneg' := nonneg.trans le
  have one := grain_grain (S := S) nonneg
  have other := grain_grain (S := S) nonneg'
  unfold Rounding.place placeOf
  rcases (one.mono other le).lt_or_eq with lt | eq
  · -- What is rounded to greater multiples has a greater place than all that is not.
    have least := one.least
    have normal := le_nearest_quotient (S := S) nonneg' (by omega)
    have top := nearest_quotient_le (S := S) nonneg
    have steps : (Rounding.grain S x - S.minExponent).toNat + 1 ≤
        (Rounding.grain S y - S.minExponent).toNat := by omega
    have := Nat.mul_le_mul_right (2 ^ fractionBits S) steps
    rw [pow_succ] at top
    rw [add_one_mul] at this
    omega
  · rw [eq]
    gcongr
    exact nearest_mono (by gcongr)

/-- The number at the place of `m` times 2 to the `e`. -/
lemma Fits.units (fits : Fits S m e) :
    units S (placeOf S m e) = m * 2 ^ (e - S.minExponent).toNat := by
  have lt := fits.lt
  rw [pow_succ] at lt
  unfold Rounding.units placeOf
  -- Less than a full mantissa is only there at the least exponent.
  rcases Nat.lt_or_ge m (2 ^ fractionBits S) with small | large
  · have least := fits.normal.resolve_right (by omega)
    simp [least, small]
  · obtain ⟨f, rfl⟩ := Nat.exists_eq_add_of_le large
    have steps : (e - S.minExponent).toNat * 2 ^ fractionBits S + (2 ^ fractionBits S + f) =
        f + 2 ^ fractionBits S * ((e - S.minExponent).toNat + 1) := by ring
    have pos : 0 < 2 ^ fractionBits S := by positivity
    rw [steps, if_neg (by nlinarith), Nat.add_mul_mod_self_left, Nat.mod_eq_of_lt (by omega),
      Nat.add_mul_div_left _ _ pos, Nat.div_eq_of_lt (by omega)]
    simp

/-- The place of `m` and `e` has the number that they are. -/
lemma Fits.value (fits : Fits S m e) : value S (placeOf S m e) = m * 2 ^ e := by
  obtain ⟨d, eq⟩ := Int.le.dest fits.least
  have steps : (e - S.minExponent).toNat = d := by omega
  rw [Rounding.value, fits.units, steps]
  push_cast
  rw [mul_assoc, pow_mul_zpow, add_comm (d : ℤ), eq]

/-- The first places are those of the multiples of the least number. -/
lemma fits_of_lt (lt : n < 2 ^ fractionBits S) :
    Fits S n S.minExponent ∧ placeOf S n S.minExponent = n := by
  refine ⟨⟨le_rfl, ?_, .inl rfl⟩, by simp [placeOf]⟩
  rw [pow_succ]
  omega

/-- A place further on has a whole number of all digits, and an exponent. -/
lemma fits_of_div (eq : n / 2 ^ fractionBits S = k + 1) :
    Fits S (2 ^ fractionBits S + n % 2 ^ fractionBits S) (S.minExponent + k) ∧
      placeOf S (2 ^ fractionBits S + n % 2 ^ fractionBits S) (S.minExponent + k) = n := by
  have mod := Nat.mod_lt n (by positivity : 0 < 2 ^ fractionBits S)
  have split := Nat.div_add_mod n (2 ^ fractionBits S)
  refine ⟨⟨by omega, by rw [pow_succ]; omega, .inr (by omega)⟩, ?_⟩
  rw [placeOf, add_sub_cancel_left, Int.toNat_natCast]
  rw [eq] at split
  linarith

/-- Every place is that of a number of the format. -/
lemma exists_fits (S : Format) (n : ℕ) : ∃ m e, Fits S m e ∧ placeOf S m e = n := by
  rcases eq : n / 2 ^ fractionBits S with _ | k
  · have lt := (Nat.div_eq_zero_iff_lt (by positivity)).mp eq
    exact ⟨_, _, fits_of_lt lt⟩
  · exact ⟨_, _, fits_of_div eq⟩

/-- The number at a place is not changed by rounding. -/
theorem place_value (S : Format) (n : ℕ) : Rounding.place S (Rounding.value S n) = n := by
  obtain ⟨m, e, fits, rfl⟩ := exists_fits S n
  rw [fits.value, fits.place]

/-- No place has a negative number. -/
lemma value_nonneg (S : Format) (n : ℕ) : 0 ≤ Rounding.value S n := by
  unfold Rounding.value
  positivity

/-- Places are in the order of their numbers. -/
theorem value_lt_value_iff : Rounding.value S m < Rounding.value S n ↔ m < n := by
  -- Both ways: the place of a value is its number, and places grow with values.
  constructor
  · intro lt
    by_contra ge
    rcases (Nat.ge_of_not_lt ge).lt_or_eq with lt' | eq
    · have := place_mono (S := S) (value_nonneg S m) lt.le
      rw [place_value, place_value] at this
      omega
    · rw [eq] at lt
      exact lt_irrefl _ lt
  · intro lt
    by_contra ge
    have := place_mono (S := S) (value_nonneg S n) (not_lt.mp ge)
    rw [place_value, place_value] at this
    omega

/-- So they are if two may be the same. -/
theorem value_le_value_iff : Rounding.value S m ≤ Rounding.value S n ↔ m ≤ n := by
  rw [← not_lt, value_lt_value_iff, not_lt]

/-- The first place is that of zero. -/
@[simp]
lemma value_zero (S : Format) : Rounding.value S 0 = 0 := by
  simp [Rounding.value, Rounding.units]

/-- Zero is rounded to itself. -/
@[simp]
lemma place_zero (S : Format) : Rounding.place S 0 = 0 := by
  rw [← value_zero S, place_value]

/-- A whole multiple of a power of two, of not too many digits, is a number of the format. -/
lemma exists_fits_of_multiple (least : S.minExponent ≤ e) (lt : k < 2 ^ (fractionBits S + 1)) :
    ∃ m e', Fits S m e' ∧ (k : ℚ) * 2 ^ e = m * 2 ^ e' := by
  have nonneg : (0 : ℚ) ≤ k * 2 ^ e := by positivity
  have own := grain_grain (S := S) nonneg
  have le : Rounding.grain S (k * 2 ^ e) ≤ e := by
    refine own.normal.elim (fun eq => eq ▸ least) fun normal => ?_
    have lt : (k : ℚ) < 2 ^ (fractionBits S + 1) := by exact_mod_cast lt
    have lt' := normal.trans_lt (mul_lt_mul_of_pos_right lt (by positivity : (0 : ℚ) < 2 ^ e))
    rw [pow_mul_zpow, pow_mul_zpow, zpow_lt_zpow_iff_right₀ one_lt_two] at lt'
    push_cast at lt'
    linarith
  obtain ⟨d, eq⟩ := Int.le.dest le
  have same : (k : ℚ) * 2 ^ e = (k * 2 ^ d : ℕ) * 2 ^ Rounding.grain S (k * 2 ^ e) := by
    push_cast
    rw [mul_assoc, pow_mul_zpow, add_comm (d : ℤ), eq]
  have pos : (0 : ℚ) < 2 ^ Rounding.grain S (k * 2 ^ e) := by positivity
  refine ⟨k * 2 ^ d, _, ⟨own.least, ?_, own.normal.imp_right fun normal => ?_⟩, same⟩
  · have lt := own.lt
    nth_rewrite 1 [same] at lt
    exact_mod_cast lt_of_mul_lt_mul_right lt pos.le
  · nth_rewrite 2 [same] at normal
    exact_mod_cast le_of_mul_le_mul_right normal pos

/-- Such a multiple is not changed by rounding. -/
lemma value_place_of_multiple (least : S.minExponent ≤ e) (lt : k < 2 ^ (fractionBits S + 1)) :
    Rounding.value S (Rounding.place S (k * 2 ^ e)) = k * 2 ^ e := by
  obtain ⟨m, e', fits, eq⟩ := exists_fits_of_multiple least lt
  rw [eq, fits.place, fits.value]

end place

end Rounding
end PageSearch
