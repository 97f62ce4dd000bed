import PageSearch.Proofs.Number.Rounding

/-!
# Arithmetic rounds once

The operations on floating-point numbers take them apart into signs, whole numbers and exponents,
and drop digits that a format has no room for. What comes out is the exact result of the operation,
rounded to the format (`Holds.mul`, `Holds.div`, `Has.add`, `Has.sub`).
-/

namespace PageSearch
namespace Rounding

open Float.Model Float.Model.UnpackedFloat

section digits

variable {em : ExtendedMantissa} {x f : ℚ} {m : ℕ} {acc : Accuracy}

/-- A whole number and two bits tell of a rational all that is needed to round it. -/
structure Shows (em : ExtendedMantissa) (x : ℚ) : Prop where
  le : em.mantissa ≤ x
  lt : x < em.mantissa + 1
  roundBit : em.roundBit = true ↔ em.mantissa + 1 / 2 ≤ x
  stickyBit : em.stickyBit = true ↔ x ≠ em.mantissa ∧ x ≠ em.mantissa + 1 / 2

/-- What an accuracy says of the part that is missing. -/
def Tells : Accuracy → ℚ → Prop
  | .exact, f => f = 0
  | .inexact .lt, f => 0 < f ∧ f < 1 / 2
  | .inexact .eq, f => f = 1 / 2
  | .inexact .gt, f => 1 / 2 < f ∧ f < 1

/-- The part that is missing is not negative. -/
lemma Tells.nonneg (tells : Tells acc f) : 0 ≤ f := by
  rcases acc with _ | (_ | _ | _) <;> simp only [Tells] at tells <;> linarith

/-- It is less than one. -/
lemma Tells.lt_one (tells : Tells acc f) : f < 1 := by
  rcases acc with _ | (_ | _ | _) <;> simp only [Tells] at tells <;> linarith

/-- A whole number and an accuracy show their sum with the missing part. -/
lemma shows_ofMantissaAndAccuracy (m : ℕ) (tells : Tells acc f) :
    Shows (ExtendedMantissa.ofMantissaAndAccuracy m acc) (m + f) := by
  have nonneg := tells.nonneg
  have lt_one := tells.lt_one
  rcases acc with _ | (_ | _ | _) <;> simp only [Tells] at tells <;>
    refine ⟨?_, ?_, ?_, ?_⟩ <;> simp only [ExtendedMantissa.ofMantissaAndAccuracy] <;> grind

/-- To shift by one digit shows a half. -/
lemma Shows.shiftRightOne (seen : Shows em x) : Shows em.shiftRightOne (x / 2) := by
  obtain ⟨le, lt, round, sticky⟩ := seen
  have split : (em.mantissa : ℚ) = 2 * (em.mantissa / 2 : ℕ) + (em.mantissa % 2 : ℕ) := by
    exact_mod_cast (Nat.div_add_mod em.mantissa 2).symm
  -- The last digit becomes the round bit, and the old round bit counts as sticky.
  rcases Nat.mod_two_eq_zero_or_one em.mantissa with even | odd
  · rw [even] at split
    refine ⟨?_, ?_, ?_, ?_⟩ <;> simp only [ExtendedMantissa.shiftRightOne, even] <;> grind
  · rw [odd] at split
    refine ⟨?_, ?_, ?_, ?_⟩ <;> simp only [ExtendedMantissa.shiftRightOne, odd] <;> grind

/-- To shift by more divides by that power of two. -/
lemma Shows.shiftRight (seen : Shows em x) (n : ℕ) : Shows (em >>> n) (x / 2 ^ n) := by
  show Shows (n.repeat ExtendedMantissa.shiftRightOne em) _
  induction n with
  | zero => simpa [Nat.repeat] using seen
  | succ n ih =>
    rw [pow_succ, ← div_div]
    exact ih.shiftRightOne

/-- What is shown suffices to find the nearest whole number. -/
lemma Shows.roundedMantissa (seen : Shows em x) : em.roundedMantissa = nearest x := by
  obtain ⟨le, lt, round, sticky⟩ := seen
  have floor : ⌊x⌋₊ = em.mantissa := by
    rw [Nat.floor_eq_iff ((Nat.cast_nonneg _).trans le)]
    exact ⟨le, lt⟩
  unfold nearest
  rw [floor]
  obtain ⟨m, _ | _, _ | _⟩ := em <;>
    simp only [ExtendedMantissa.roundedMantissa, ExtendedMantissa.accuracy,
      Accuracy.roundToNearestEven] <;> grind

end digits

variable {S : Format} {s s' : Sign} {x y f : ℚ} {m m' : ℕ} {e e' : ℤ} {u v : UnpackedFloat}

/-- An unpacked number is the one nearest to `x`, with a sign. -/
inductive Rounds (S : Format) (s : Sign) (x : ℚ) : UnpackedFloat → Prop where
  | zero : place S x = 0 → Rounds S s x (.zero s)
  | finite {m : ℕ} {e : ℤ} (pos : 0 < m) : Fits S m e → place S x = placeOf S m e →
    Rounds S s x (.finite s m e pos)

/-- An unpacked number of the format is `x`, with a sign. -/
inductive Holds (S : Format) (s : Sign) (x : ℚ) : UnpackedFloat → Prop where
  | zero : x = 0 → Holds S s x (.zero s)
  | finite {m : ℕ} {e : ℤ} (pos : 0 < m) : Fits S m e → x = m * 2 ^ e →
    Holds S s x (.finite s m e pos)

/-- A number of the format is nearest to itself. -/
lemma Holds.rounds (holds : Holds S s x u) : Rounds S s x u := by
  cases holds with
  | zero eq => exact .zero (by rw [eq, place_zero])
  | finite pos fits eq => exact .finite pos fits (by rw [eq, fits.place])

section round

/-- The exponent for a whole number and an exponent is that for the rational whose first digits they
are. -/
lemma targetExponent_of_pos (nonneg : 0 ≤ f) (lt : f < 1) (eq : x = (m + f) * 2 ^ e)
    (pos : 0 < m) : S.targetExponent (totalExponent m e) = grain S x := by
  have x_nonneg : 0 ≤ x := by
    rw [eq]
    positivity
  refine ((grain_targetExponent (S := S) ?_ ?_).eq x_nonneg).symm
  · have low : (2 : ℚ) ^ m.log2 ≤ m + f := by
      have : (2 : ℚ) ^ m.log2 ≤ m := by exact_mod_cast Nat.log2_self_le pos.ne'
      linarith
    have steps : totalExponent m e - 1 = m.log2 + e := by
      simp only [totalExponent]
      ring
    rw [steps, ← pow_mul_zpow, eq]
    gcongr
  · have high : (m : ℚ) + f < 2 ^ (m.log2 + 1) := by
      have : (m : ℚ) + 1 ≤ 2 ^ (m.log2 + 1) := by exact_mod_cast Nat.lt_log2_self
      linarith
    have steps : totalExponent m e = (m.log2 + 1 : ℕ) + e := by
      simp only [totalExponent]
      push_cast
      ring
    rw [steps, ← pow_mul_zpow, eq]
    gcongr

/-- Those digits are enough even if the whole number is zero. -/
lemma targetExponent_eq_grain (nonneg : 0 ≤ f) (lt : f < 1) (eq : x = (m + f) * 2 ^ e)
    (le : e ≤ grain S x) : S.targetExponent (totalExponent m e) = grain S x := by
  rcases Nat.eq_zero_or_pos m with zero | pos
  · -- A number of which no digit is left is rounded to a multiple of the least one.
    have small : x < 2 ^ e := by
      rw [eq, zero]
      simpa using (mul_lt_mul_of_pos_right lt (by positivity : (0 : ℚ) < 2 ^ e))
    have x_nonneg : 0 ≤ x := by
      rw [eq]
      positivity
    have least : grain S x = S.minExponent := by
      refine (grain_grain x_nonneg).normal.resolve_right fun normal => ?_
      have := normal.trans_lt small
      rw [pow_mul_zpow, zpow_lt_zpow_iff_right₀ one_lt_two] at this
      omega
    have steps : totalExponent 0 e = 1 + e := by simp [totalExponent]
    rw [least] at le ⊢
    rw [zero, targetExponent_eq, steps]
    omega
  · exact targetExponent_of_pos nonneg lt eq pos

/-- To a greater exponent the digits in between are dropped. -/
lemma shiftToExponent_eq {acc : Accuracy} {t : ℤ} (le : e ≤ t) :
    shiftToExponent m e acc t =
      (ExtendedMantissa.ofMantissaAndAccuracy m acc >>> (t - e).toNat, t) := by
  simp only [shiftToExponent, Prod.mk.injEq, true_and]
  omega

/-- A whole number that has come from rounding has at most one digit too many. -/
lemma rounds_shiftToTargetExponent (least : S.minExponent ≤ e)
    (le : m ≤ 2 ^ (fractionBits S + 1)) (normal : e = S.minExponent ∨ 2 ^ fractionBits S ≤ m)
    (at' : place S x = placeOf S m e) :
    ∃ m' e', shiftToTargetExponent S m e .exact = (⟨m', false, false⟩, e') ∧
      (m' = 0 → Rounds S s x (.zero s)) ∧ ∀ pos, Rounds S s x (.finite s m' e' pos) := by
  have steps : totalExponent m e = m.log2 + 1 + e := rfl
  rcases le.lt_or_eq with lt | eq
  · have digits : m.log2 ≤ fractionBits S := by
      rcases Nat.eq_zero_or_pos m with zero | pos
      · simp [zero]
      · exact Nat.lt_succ_iff.mp ((Nat.log2_lt pos.ne').mpr lt)
    have target : (S.targetExponent (totalExponent m e) - e).toNat = 0 := by
      rw [targetExponent_eq, steps]
      omega
    refine ⟨m, e, ?_, ?_, fun pos => .finite pos ⟨least, lt, normal⟩ at'⟩
    · simp only [shiftToTargetExponent, shiftToExponent, target]
      simp only [Nat.cast_zero, add_zero]
      rfl
    · rintro rfl
      have eq := normal.resolve_right (by simp)
      refine .zero ?_
      rw [at', eq]
      simp [placeOf]
  · -- Rounding up has come to a power of two, which is shifted once more.
    have target : S.targetExponent (totalExponent m e) = e + 1 := by
      rw [targetExponent_eq, steps, eq, Nat.log2_two_pow]
      omega
    have one : (e + 1 - e).toNat = 1 := by omega
    have half : 2 ^ (fractionBits S + 1) / 2 = 2 ^ fractionBits S := by
      rw [pow_succ, Nat.mul_div_cancel _ two_pos]
    have even : 2 ^ (fractionBits S + 1) % 2 = 0 := by
      rw [pow_succ, Nat.mul_mod_left]
    refine ⟨2 ^ fractionBits S, e + 1, ?_, ?_,
      fun pos => .finite pos ⟨by omega, ?_, .inr le_rfl⟩ ?_⟩
    · rw [shiftToTargetExponent, target, shiftToExponent_eq (by omega), one, eq]
      show (ExtendedMantissa.shiftRightOne ⟨2 ^ (fractionBits S + 1), false, false⟩, e + 1) = _
      simp only [ExtendedMantissa.shiftRightOne, half, even]
      rfl
    · intro zero
      exact absurd zero (by positivity)
    · rw [pow_succ]
      omega
    · have steps : (e + 1 - S.minExponent).toNat = (e - S.minExponent).toNat + 1 := by omega
      rw [at', eq, placeOf, placeOf, steps]
      ring

/-- Digits are dropped as rounding asks. -/
lemma rounds_roundWithAccuracy {acc : Accuracy} (tells : Tells acc f)
    (eq : x = (m + f) * 2 ^ e) (le : e ≤ grain S x) :
    Rounds S s x (roundWithAccuracy S s m e acc) := by
  have nonneg := tells.nonneg
  have x_nonneg : 0 ≤ x := by
    rw [eq]
    positivity
  obtain ⟨d, steps⟩ := Int.le.dest le
  have shift : (grain S x - e).toNat = d := by omega
  have quotient : ((m : ℚ) + f) / 2 ^ d = x / 2 ^ grain S x := by
    rw [← steps, eq, zpow_add₀ two_ne_zero, zpow_natCast]
    field_simp
  have rounded := ((shows_ofMantissaAndAccuracy m tells).shiftRight d).roundedMantissa
  rw [quotient] at rounded
  -- Rounding up can fill the mantissa, so the exponent is looked at once more.
  obtain ⟨m', e', shifted, zero, finite⟩ := rounds_shiftToTargetExponent (s := s)
    (grain_grain (S := S) x_nonneg).least (nearest_quotient_le x_nonneg)
    (or_iff_not_imp_left.mpr (le_nearest_quotient x_nonneg)) rfl
  have first : shiftToTargetExponent S m e acc =
      (ExtendedMantissa.ofMantissaAndAccuracy m acc >>> d, grain S x) := by
    rw [shiftToTargetExponent, targetExponent_eq_grain nonneg tells.lt_one eq le,
      shiftToExponent_eq le, shift]
  simp only [roundWithAccuracy, first, rounded, shifted]
  split_ifs with empty
  · exact zero empty
  · exact finite _

/-- To a smaller exponent a whole number is multiplied, which keeps its value. -/
lemma decreaseExponent_eq (m : ℕ) (e t : ℤ) :
    ∃ m' : ℕ, decreaseExponent m e t = (m', min e t) ∧ (m' : ℚ) * 2 ^ min e t = m * 2 ^ e ∧
      (0 < m → 0 < m') := by
  refine ⟨m <<< (e - t).toNat, ?_, ?_, ?_⟩
  · simp only [decreaseExponent, Prod.mk.injEq, true_and]
    omega
  · have steps : ((e - t).toNat : ℤ) + min e t = e := by omega
    rw [Nat.shiftLeft_eq]
    push_cast
    rw [mul_assoc, pow_mul_zpow, steps]
  · intro pos
    rw [Nat.shiftLeft_eq]
    positivity

/-- To round gives the nearest number. -/
lemma rounds_round (s : Sign) (pos : 0 < m) (e : ℤ) :
    Rounds S s (m * 2 ^ e) (UnpackedFloat.round S s m e) := by
  obtain ⟨m', eq, same, -⟩ := decreaseExponent_eq m e (S.targetExponent (totalExponent m e))
  have target : S.targetExponent (totalExponent m e) = grain S (m * 2 ^ e) :=
    targetExponent_of_pos le_rfl zero_lt_one (by rw [add_zero]) pos
  simp only [UnpackedFloat.round, eq]
  refine rounds_roundWithAccuracy (rfl : Tells .exact 0) ?_ ?_
  · rw [add_zero, same]
  · exact (min_le_right _ _).trans target.le

end round

section product

/-- The least exponent is not above zero. -/
lemma minExponent_nonpos (S : Format) : S.minExponent ≤ 0 := by
  have pos := S.hm
  have one : (1 : ℤ) ≤ 2 ^ (S.exponentBits - 1) := one_le_pow₀ (by norm_num)
  simp only [Format.minExponent, Format.mantissaBits]
  push_cast
  omega

/-- Digits can be dropped of a number that has enough of them. -/
lemma le_grain (pos : 0 < m) (enough : e ≤ S.minExponent ∨ 2 ^ fractionBits S ≤ m) :
    e ≤ grain S (m * 2 ^ e) := by
  have own := grain_grain (S := S) (x := m * 2 ^ e) (by positivity)
  -- A full mantissa has all the digits there are room for.
  rcases enough with low | large
  · exact low.trans own.least
  · have large : (2 : ℚ) ^ fractionBits S ≤ m := by exact_mod_cast large
    have le : (2 : ℚ) ^ fractionBits S * 2 ^ e ≤ m * 2 ^ e := by gcongr
    have lt := le.trans_lt own.lt
    rw [pow_mul_zpow, pow_mul_zpow, zpow_lt_zpow_iff_right₀ one_lt_two] at lt
    push_cast at lt
    omega

/-- A product has enough digits to be rounded, or an exponent that is small enough. -/
lemma Fits.enough (fits : Fits S m e) (fits' : Fits S m' e') (pos : 0 < m) (pos' : 0 < m') :
    e + e' ≤ S.minExponent ∨ 2 ^ fractionBits S ≤ m * m' := by
  have nonpos := minExponent_nonpos S
  rcases fits.normal with least | large
  · rcases fits'.normal with least' | large'
    · exact .inl (by omega)
    · exact .inr (large'.trans (Nat.le_mul_of_pos_left _ pos))
  · exact .inr (large.trans (Nat.le_mul_of_pos_right _ pos'))

/-- So it is before the sign of its result and its digits are known. -/
lemma rounds_mul (pos : 0 < m) (pos' : 0 < m')
    (enough : e + e' ≤ S.minExponent ∨ 2 ^ fractionBits S ≤ m * m') :
    Rounds S (s * s') ((m * 2 ^ e) * (m' * 2 ^ e'))
      (UnpackedFloat.mul S (.finite s m e pos) (.finite s' m' e' pos')) := by
  have eq : (m : ℚ) * 2 ^ e * (m' * 2 ^ e') = (m * m' : ℕ) * 2 ^ (e + e') := by
    rw [zpow_add₀ two_ne_zero]
    push_cast
    ring
  rw [eq]
  refine rounds_roundWithAccuracy (rfl : Tells .exact 0) (by rw [add_zero]) ?_
  exact le_grain (Nat.mul_pos pos pos') enough

/-- A product is that of the numbers, rounded. -/
theorem Holds.mul (one : Holds S s x u) (other : Holds S s' y v) :
    Rounds S (s * s') (x * y) (UnpackedFloat.mul S u v) := by
  cases one with
  | zero eq =>
    rw [eq, zero_mul]
    cases other <;> exact .zero (place_zero S)
  | finite pos fits eq =>
    cases other with
    | zero eq' =>
      rw [eq', mul_zero]
      exact .zero (place_zero S)
    | finite pos' fits' eq' =>
      rw [eq, eq']
      exact rounds_mul pos pos' (fits.enough fits' pos pos')

/-- The rest of a division tells of the part that is missing. -/
lemma tells_accuracyOfFraction {n d : ℕ} (lt : n < d) :
    Tells (accuracyOfFraction n d) (n / d) := by
  have pos : (0 : ℚ) < d := by exact_mod_cast Nat.zero_lt_of_lt lt
  unfold accuracyOfFraction
  split_ifs with zero
  · simp [zero, Tells]
  · have n_pos : (0 : ℚ) < n := by exact_mod_cast Nat.pos_of_ne_zero zero
    have lt : (n : ℚ) < d := by exact_mod_cast lt
    rcases Nat.lt_trichotomy (2 * n) d with below | tie | above
    · rw [Nat.compare_eq_lt.mpr below]
      have below : 2 * (n : ℚ) < d := by exact_mod_cast below
      refine ⟨by positivity, ?_⟩
      rw [div_lt_iff₀ pos]
      linarith
    · rw [Nat.compare_eq_eq.mpr tie]
      have tie : 2 * (n : ℚ) = d := by exact_mod_cast tie
      show (n : ℚ) / d = 1 / 2
      rw [div_eq_iff pos.ne']
      linarith
    · rw [Nat.compare_eq_gt.mpr above]
      have above : (d : ℚ) < 2 * n := by exact_mod_cast above
      refine ⟨?_, (div_lt_one pos).mpr lt⟩
      rw [lt_div_iff₀ pos]
      linarith

/-- The exponent for a quotient is not above that to which it is rounded. -/
lemma grain_quotient (pos : 0 < m) (pos' : 0 < m') :
    S.targetExponent (totalExponent m e - totalExponent m' e') ≤
      grain S (m * 2 ^ e / (m' * 2 ^ e')) := by
  have own := grain_grain (S := S) (x := m * 2 ^ e / (m' * 2 ^ e')) (by positivity)
  have low : (2 : ℚ) ^ m.log2 ≤ m := by exact_mod_cast Nat.log2_self_le pos.ne'
  have high : (m' : ℚ) < 2 ^ (m'.log2 + 1) := by exact_mod_cast Nat.lt_log2_self
  -- The quotient is above the power of two that its leading digits give.
  have lt : (2 : ℚ) ^ (m.log2 + e - (m'.log2 + 1 + e')) < m * 2 ^ e / (m' * 2 ^ e') := by
    have steps : (m.log2 : ℤ) + e - (m'.log2 + 1 + e') = m.log2 + e - ((m'.log2 + 1 : ℕ) + e') := by
      push_cast
      ring
    rw [steps, zpow_sub₀ two_ne_zero, ← pow_mul_zpow, ← pow_mul_zpow]
    calc (2 : ℚ) ^ m.log2 * 2 ^ e / (2 ^ (m'.log2 + 1) * 2 ^ e')
      _ ≤ m * 2 ^ e / (2 ^ (m'.log2 + 1) * 2 ^ e') := by gcongr
      _ < m * 2 ^ e / (m' * 2 ^ e') := by gcongr
  have lt := lt.trans own.lt
  rw [pow_mul_zpow, zpow_lt_zpow_iff_right₀ one_lt_two] at lt
  have least := own.least
  simp only [targetExponent_eq, totalExponent]
  push_cast at lt
  omega

/-- A quotient is that of the numbers, rounded. -/
theorem Holds.div (one : Holds S s x u) (other : Holds S s' y v) (ne : y ≠ 0) :
    Rounds S (s / s') (x / y) (UnpackedFloat.div S u v) := by
  cases other with
  | zero eq' => exact absurd eq' ne
  | finite pos' fits' eq' =>
    cases one with
    | zero eq =>
      rw [eq, zero_div]
      exact .zero (place_zero S)
    | finite pos fits eq =>
      rename_i m' e' m e
      have target : S.targetExponent (totalExponent m e - totalExponent m' e') ≤
          grain S (m * 2 ^ e / (m' * 2 ^ e')) := grain_quotient pos pos'
      simp only [UnpackedFloat.div, divCore]
      generalize S.targetExponent (totalExponent m e - totalExponent m' e') = t at target ⊢
      -- The dividend is shifted until the quotient has all the digits it is rounded to.
      obtain ⟨d, steps⟩ := Int.le.dest (min_le_left (e - e') t)
      have shift : (e - e' - min (e - e') t).toNat = d := by omega
      rw [shift, Nat.shiftLeft_eq]
      refine rounds_roundWithAccuracy (tells_accuracyOfFraction (Nat.mod_lt _ pos')) ?_ ?_
      · have split : ((m * 2 ^ d : ℕ) : ℚ) = m' * (m * 2 ^ d / m' : ℕ) + (m * 2 ^ d % m' : ℕ) := by
          exact_mod_cast (Nat.div_add_mod _ _).symm
        have m'_pos : (0 : ℚ) < m' := by exact_mod_cast pos'
        have quotient :
            ((m * 2 ^ d / m' : ℕ) : ℚ) + (m * 2 ^ d % m' : ℕ) / m' = m * 2 ^ d / m' := by
          push_cast at split
          rw [split]
          field_simp
        have exponents : e = d + min (e - e') t + e' := by omega
        rw [quotient, eq, eq', exponents, zpow_add₀ two_ne_zero, zpow_add₀ two_ne_zero,
          zpow_natCast, ← exponents]
        field_simp
      · rw [eq, eq']
        exact (min_le_right _ _).trans target

end product

section sum

/-- A rational with a sign. -/
def signed : Sign → ℚ → ℚ
  | .negative, x => -x
  | .positive, x => x

/-- An unpacked number of the format is `x`. -/
def Has (S : Format) (x : ℚ) (u : UnpackedFloat) : Prop :=
  ∃ s y, x = signed s y ∧ Holds S s y u

/-- An unpacked number is the one nearest to `x`. -/
def Nears (S : Format) (x : ℚ) (u : UnpackedFloat) : Prop :=
  ∃ s y, x = signed s y ∧ 0 ≤ y ∧ Rounds S s y u

/-- Zero is the same with either sign. -/
@[simp]
lemma signed_zero (s : Sign) : signed s 0 = 0 := by
  cases s <;> simp [signed]

/-- What a number holds without its sign is not negative. -/
lemma Holds.nonneg (holds : Holds S s x u) : 0 ≤ x := by
  cases holds with
  | zero eq => exact eq.ge
  | finite pos fits eq =>
    rw [eq]
    positivity

/-- A number of the format is nearest to itself. -/
lemma Has.nears (has : Has S x u) : Nears S x u := by
  obtain ⟨s, y, eq, holds⟩ := has
  exact ⟨s, y, eq, holds.nonneg, holds.rounds⟩

/-- A whole number that is not negative is rounded as it is. -/
lemma normalize_natCast (pos : 0 < m) (e : ℤ) :
    UnpackedFloat.normalize S m e .positive = UnpackedFloat.round S .positive m e := by
  have sign : (0 : ℤ) < m := by exact_mod_cast pos
  unfold UnpackedFloat.normalize
  rw [Int.compare_eq_gt.mpr sign, Int.toNat_natCast]

/-- A whole number and an exponent are rounded with the sign of the number. -/
lemma nears_normalize (k e : ℤ) :
    Nears S (k * 2 ^ e) (UnpackedFloat.normalize S k e .positive) := by
  rcases lt_trichotomy k 0 with neg | rfl | pos
  · obtain ⟨m, rfl⟩ := Int.exists_eq_neg_ofNat neg.le
    have m_pos : 0 < m := by omega
    unfold UnpackedFloat.normalize
    rw [Int.compare_eq_lt.mpr neg]
    refine ⟨.negative, m * 2 ^ e, ?_, by positivity, ?_⟩
    · simp [signed]
    · simpa using rounds_round .negative m_pos e
  · exact ⟨.positive, 0, by simp [signed], le_rfl, .zero (place_zero S)⟩
  · obtain ⟨m, rfl⟩ := Int.eq_ofNat_of_zero_le pos.le
    have m_pos : 0 < m := by omega
    refine ⟨.positive, m * 2 ^ e, by simp [signed], by positivity, ?_⟩
    rw [normalize_natCast m_pos]
    exact rounds_round .positive m_pos e

/-- To give a sign to the whole number is to give it to the value. -/
lemma signed_eq_apply (s : Sign) (m : ℕ) (e : ℤ) :
    signed s (m * 2 ^ e) = (s.apply m : ℤ) * 2 ^ e := by
  cases s <;> simp [signed, Sign.apply]

/-- A sum is that of the numbers, rounded. -/
theorem Has.add (one : Has S x u) (other : Has S y v) :
    Nears S (x + y) (UnpackedFloat.add S u v) := by
  obtain ⟨s, x', rfl, holds⟩ := one
  obtain ⟨s', y', rfl, holds'⟩ := other
  cases holds with
  | zero eq =>
    cases holds' with
    | zero eq' =>
      rw [eq, eq']
      cases s <;> cases s' <;>
        exact ⟨_, 0, by simp [signed], le_rfl, .zero (place_zero S)⟩
    | finite pos' fits' eq' =>
      rw [eq, signed_zero, zero_add]
      exact Has.nears ⟨s', y', rfl, .finite pos' fits' eq'⟩
  | finite pos fits eq =>
    cases holds' with
    | zero eq' =>
      rw [eq', signed_zero, add_zero]
      exact Has.nears ⟨s, x', rfl, .finite pos fits eq⟩
    | finite pos' fits' eq' =>
      rename_i m e m' e'
      -- Both are written at the lesser exponent, where the sum is that of integers.
      obtain ⟨k, decrease, same, -⟩ := decreaseExponent_eq m e (min e e')
      obtain ⟨k', decrease', same', -⟩ := decreaseExponent_eq m' e' (min e e')
      rw [min_eq_right (min_le_left e e')] at decrease same
      rw [min_eq_right (min_le_right e e')] at decrease' same'
      simp only [UnpackedFloat.add, decrease, decrease']
      rw [eq, eq', ← same, ← same', signed_eq_apply, signed_eq_apply, ← add_mul, ← Int.cast_add]
      exact nears_normalize _ _

/-- The opposite of a number has the opposite value. -/
lemma Has.neg (has : Has S x u) : Has S (-x) u.neg := by
  obtain ⟨s, y, rfl, holds⟩ := has
  have sign : -signed s y = signed (-s) y := by
    cases s with
    | negative => exact neg_neg y
    | positive => rfl
  refine ⟨-s, y, sign, ?_⟩
  cases holds with
  | zero eq => exact .zero eq
  | finite pos fits eq => exact .finite pos fits eq

/-- A difference is a sum with the opposite. -/
lemma sub_eq_add (S : Format) (u v : UnpackedFloat) :
    UnpackedFloat.sub S u v = UnpackedFloat.add S u v.neg := by
  have apply_neg (s : Sign) (k : ℤ) : (-s).apply k = -s.apply k := by
    cases s with
    | negative => exact (neg_neg k).symm
    | positive => rfl
  cases u <;> cases v <;> try rfl
  simp only [UnpackedFloat.sub, UnpackedFloat.add, UnpackedFloat.neg, apply_neg,
    ← sub_eq_add_neg]

/-- A difference is that of the numbers, rounded. -/
theorem Has.sub (one : Has S x u) (other : Has S y v) :
    Nears S (x - y) (UnpackedFloat.sub S u v) := by
  rw [sub_eq_add, sub_eq_add_neg]
  exact one.add other.neg

/-- A product is the one nearest to that of the values. -/
lemma Has.mul (one : Has S x u) (other : Has S y v) :
    Nears S (x * y) (UnpackedFloat.mul S u v) := by
  obtain ⟨s, x', rfl, holds⟩ := one
  obtain ⟨s', y', rfl, holds'⟩ := other
  refine ⟨s * s', x' * y', ?_, mul_nonneg holds.nonneg holds'.nonneg, holds.mul holds'⟩
  cases s <;> cases s' <;> simp [signed]

end sum

end Rounding
end PageSearch
