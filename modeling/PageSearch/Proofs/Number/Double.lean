import PageSearch.Proofs.Number.Packed

/-!
# Bounds in double precision

The logarithm is computed in doubles of either sign. A bound on the exact result of an operation is
one on the rounded result as well if the bound itself is a double. The bounds used here are whole
multiples of powers of two with few digits (`Short`), which are.
-/

namespace PageSearch
namespace Rounding

open Float.Model UnpackedFloat

/-- A rational that is a double, and not too great. -/
def Short (x : ℚ) : Prop :=
  ∃ (k : ℤ) (j : ℕ), k.natAbs < 2 ^ 53 ∧ j ≤ 1074 ∧ x = k / 2 ^ j

/-- A double is the number `x`. -/
def Is (x : ℚ) (a : Float) : Prop :=
  ∃ s n, a.toBits.toNat = word .binary64 s n ∧ n < limit .binary64 ∧
    x = signed s (value .binary64 n)

/-- A double is a number from `l` to `h`. -/
def Within (l h : ℚ) (a : Float) : Prop :=
  ∃ x, Is x a ∧ l ≤ x ∧ x ≤ h

section short

variable {x y l h : ℚ}

/-- Zero is short. -/
lemma short_zero : Short 0 :=
  ⟨0, 0, by decide, by decide, by norm_num⟩

/-- So is the opposite of a short number. -/
lemma Short.neg (short : Short x) : Short (-x) := by
  obtain ⟨k, j, lt, le, rfl⟩ := short
  refine ⟨-k, j, by rwa [Int.natAbs_neg], le, ?_⟩
  push_cast
  ring

/-- A short number is a value of the format. -/
lemma Short.value_place (short : Short x) (nonneg : 0 ≤ x) :
    value .binary64 (place .binary64 x) = x := by
  obtain ⟨k, j, lt, le, rfl⟩ := short
  have pos : (0 : ℚ) < 2 ^ j := by positivity
  have k_nonneg : 0 ≤ k := by
    rw [le_div_iff₀ pos, zero_mul] at nonneg
    exact_mod_cast nonneg
  obtain ⟨m, rfl⟩ := Int.eq_ofNat_of_zero_le k_nonneg
  have least : Format.minExponent .binary64 ≤ -j := by
    have : Format.minExponent .binary64 = -1074 := rfl
    omega
  have eq : (((m : ℕ) : ℤ) : ℚ) / 2 ^ j = m * 2 ^ (-j : ℤ) := by
    rw [zpow_neg, zpow_natCast, div_eq_mul_inv]
    norm_cast
  rw [eq]
  exact value_place_of_multiple least lt

/-- What is at most a short number is rounded to at most that. -/
lemma Short.value_place_le (short : Short h) (nonneg : 0 ≤ x) (le : x ≤ h) :
    value .binary64 (place .binary64 x) ≤ h := by
  rw [← short.value_place (nonneg.trans le)]
  exact value_le_value_iff.mpr (place_mono nonneg le)

/-- What is at least a short number is rounded to at least that. -/
lemma Short.le_value_place (short : Short l) (le : l ≤ x) :
    l ≤ value .binary64 (place .binary64 x) := by
  rcases le_total l 0 with neg | nonneg
  · exact neg.trans (value_nonneg _ _)
  · rw [← short.value_place nonneg]
    exact value_le_value_iff.mpr (place_mono nonneg le)

/-- Such a number does not overflow. -/
lemma Short.place_lt_limit (short : Short h) (nonneg : 0 ≤ x) (le : x ≤ h) :
    place .binary64 x < limit .binary64 := by
  obtain ⟨k, j, lt, -, rfl⟩ := short
  -- Far above every short number, and still finite.
  have fits : Fits .binary64 (2 ^ 52) 1 := ⟨by decide, by decide, .inr le_rfl⟩
  have small : x ≤ (2 ^ 52 : ℕ) * 2 ^ (1 : ℤ) := by
    have k_le : (k : ℚ) ≤ 2 ^ 53 := by
      have : k ≤ 2 ^ 53 := by omega
      exact_mod_cast this
    have one_le : (1 : ℚ) ≤ 2 ^ j := one_le_pow₀ one_le_two
    calc x
      _ ≤ k / 2 ^ j := le
      _ ≤ 2 ^ 53 / 1 := div_le_div₀ (by norm_num) k_le one_pos one_le
      _ = _ := by norm_num
  calc place .binary64 x
    _ ≤ place .binary64 ((2 ^ 52 : ℕ) * 2 ^ (1 : ℤ)) := place_mono nonneg small
    _ = placeOf .binary64 (2 ^ 52) 1 := fits.place
    _ < limit .binary64 := by decide

end short

section operations

variable {x y l h : ℚ} {a b : Float} {u : UnpackedFloat}

/-- Within an interval of one number there is that number. -/
lemma Within.is (within : Within x x a) : Is x a := by
  obtain ⟨y, is, le, le'⟩ := within
  exact le_antisymm le le' ▸ is

/-- A number is what its bits say. -/
lemma Is.has (is : Is x a) : Has .binary64 x a.toModel.unpack := by
  obtain ⟨s, n, bits, lt, eq⟩ := is
  exact ⟨s, _, eq, holds_unpack bits lt⟩

/-- A bound on an exact result is one on the double nearest to it. -/
lemma within_of_nears (bits : a.toBits.toBitVec = UnpackedFloat.pack .binary64 u)
    (nears : Nears .binary64 x u) (low : Short l) (high : Short h) (le : l ≤ x) (le' : x ≤ h) :
    Within l h a := by
  obtain ⟨s, z, rfl, nonneg, rounds⟩ := nears
  have packed := toNat_pack (by decide) rounds
  rw [← bits] at packed
  -- A negative number is between the bounds turned about.
  cases s with
  | positive =>
    have lt := high.place_lt_limit nonneg le'
    rw [min_eq_left lt.le] at packed
    exact ⟨_, ⟨.positive, _, packed, lt, rfl⟩, low.le_value_place le,
      high.value_place_le nonneg le'⟩
  | negative =>
    have le : z ≤ -l := le_neg_of_le_neg le
    have le' : -h ≤ z := neg_le_of_neg_le le'
    have lt := low.neg.place_lt_limit nonneg le
    rw [min_eq_left lt.le] at packed
    exact ⟨_, ⟨.negative, _, packed, lt, rfl⟩, le_neg_of_le_neg (low.neg.value_place_le nonneg le),
      neg_le_of_neg_le (high.neg.le_value_place le')⟩

/-- A sum stays within short ends that hold the exact sum. -/
lemma Is.add (one : Is x a) (other : Is y b) (low : Short l) (high : Short h) (le : l ≤ x + y)
    (le' : x + y ≤ h) : Within l h (a + b) :=
  within_of_nears rfl (one.has.add other.has) low high le le'

/-- So does a difference. -/
lemma Is.sub (one : Is x a) (other : Is y b) (low : Short l) (high : Short h) (le : l ≤ x - y)
    (le' : x - y ≤ h) : Within l h (a - b) :=
  within_of_nears rfl (one.has.sub other.has) low high le le'

/-- So does a product. -/
lemma Is.mul (one : Is x a) (other : Is y b) (low : Short l) (high : Short h) (le : l ≤ x * y)
    (le' : x * y ≤ h) : Within l h (a * b) :=
  within_of_nears rfl (one.has.mul other.has) low high le le'

/-- The number that a double's bits are taken for. -/
lemma is_ofBits {bits : UInt64} {s : Sign} {n : ℕ} (eq : bits.toNat = word .binary64 s n)
    (lt : n < limit .binary64) : Is (signed s (value .binary64 n)) (Float.ofBits bits) := by
  refine ⟨s, n, ?_, lt, rfl⟩
  have same := pack_unpack_of_le (S := .binary64) (b := bits.toBitVec) (by decide) eq lt.le
  exact (congrArg BitVec.toNat same).trans eq

end operations

section constants

variable {m n k d f : ℕ} {bits : UInt64}

/-- The least power of two of the format. -/
lemma minExponent_binary64 : Format.minExponent .binary64 = -1074 := rfl

/-- Every value is a multiple of that. -/
lemma value_eq_div (n : ℕ) : value .binary64 n = units .binary64 n / 2 ^ 1074 := by
  rw [value, minExponent_binary64, zpow_neg, div_eq_mul_inv]
  rfl

/-- The number with an exponent and a fraction. -/
lemma value_binary64 (pos : 1 ≤ d) (lt : f < 2 ^ 52) (eq : n = d * 2 ^ 52 + f) :
    value .binary64 n = (2 ^ 52 + f) * 2 ^ (d - 1075 : ℤ) := by
  have fits : Fits .binary64 (2 ^ 52 + f) (d - 1075) := by
    refine ⟨?_, ?_, .inr (Nat.le_add_right _ _)⟩
    · rw [minExponent_binary64]
      omega
    · show _ < 2 ^ 53
      omega
  have at' : placeOf .binary64 (2 ^ 52 + f) (d - 1075) = d * 2 ^ 52 + f := by
    rw [placeOf, minExponent_binary64]
    show ((d : ℤ) - 1075 - -1074).toNat * 2 ^ 52 + _ = _
    omega
  rw [eq, ← at', fits.value]
  push_cast
  rfl

/-- A constant is between the numbers at the places that its bits are between. -/
lemma within_positive (le : m ≤ bits.toNat) (le' : bits.toNat ≤ k) (lt : k < limit .binary64) :
    Within (value .binary64 m) (value .binary64 k) (Float.ofBits bits) := by
  have eq : bits.toNat = word .binary64 .positive bits.toNat := by simp [word, Sign.toBitVec]
  exact ⟨_, is_ofBits eq (le'.trans_lt lt), value_le_value_iff.mpr le, value_le_value_iff.mpr le'⟩

/-- The numbers with a sign are in the reverse order of their bits. -/
lemma within_negative (le : 2 ^ 63 + m ≤ bits.toNat) (le' : bits.toNat ≤ 2 ^ 63 + k)
    (lt : k < limit .binary64) :
    Within (-value .binary64 k) (-value .binary64 m) (Float.ofBits bits) := by
  obtain ⟨n, eq⟩ := Nat.exists_eq_add_of_le (Nat.le_of_add_right_le le)
  have sign : word .binary64 .negative n = 1 * 2 ^ 63 + n := rfl
  refine ⟨_, is_ofBits (s := .negative) (n := n) (by rw [sign, one_mul, eq]) (by omega), ?_, ?_⟩
  · exact neg_le_neg (value_le_value_iff.mpr (by omega))
  · exact neg_le_neg (value_le_value_iff.mpr (by omega))

end constants

end Rounding
end PageSearch
