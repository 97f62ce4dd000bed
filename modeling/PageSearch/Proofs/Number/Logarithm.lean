import PageSearch.Number.Logarithm
import PageSearch.Proofs.Number.Double
import PageSearch.Proofs.Number.Single

/-!
# The logarithm of numbers above one

The logarithm of one is zero. The logarithm of every greater number is at least 2 to the -24th, and
finite if the number is (`log_bounds`).

The polynomial takes only little from `r`, which is the greatest part of the result next to one, and
is outweighed by the logarithm of `c` and the multiple of that of two elsewhere.
-/

namespace PageSearch
namespace Single

open Rounding Float.Model

/-- What the polynomial adds to `r`. -/
def correction (r : Float) : Float :=
  let square := r * r
  let cubic := Float.ofBits 0x3fd5575b0be00b6a * r + Float.ofBits 0xbfdffffef20a4123
  let quartic := Float.ofBits 0xbfd00ea348b88334 * square + cubic
  quartic * square

section constants

/-- These bits are a quarter. -/
lemma value_quarter : value .binary64 0x3fd0000000000000 = 1 / 4 :=
  (value_binary64 (d := 1021) (f := 0) (by decide) (by decide) rfl).trans (by norm_num)

/-- These bits are three eighths. -/
lemma value_three_eighths : value .binary64 0x3fd8000000000000 = 3 / 8 :=
  (value_binary64 (d := 1021) (f := 0x8000000000000) (by decide) (by decide) rfl).trans
    (by norm_num)

/-- These bits are a half. -/
lemma value_half : value .binary64 0x3fe0000000000000 = 1 / 2 :=
  (value_binary64 (d := 1022) (f := 0) (by decide) (by decide) rfl).trans (by norm_num)

/-- These bits are one. -/
lemma value_one : value .binary64 0x3ff0000000000000 = 1 :=
  (value_binary64 (d := 1023) (f := 0) (by decide) (by decide) rfl).trans (by norm_num)

/-- The literal one is one. -/
lemma is_one : Is 1 (1 : Float) :=
  ⟨.positive, 0x3ff0000000000000, by decide +kernel, by decide, value_one.symm⟩

/-- No bits at all are zero. -/
lemma is_zero {a : Float} (bits : a.toBits = 0) : Is 0 a :=
  ⟨.positive, 0, by rw [bits]; rfl, by decide, (value_zero _).symm⟩

/-- The coefficients of the square, the cube and the fourth power. -/
lemma within_second : Within (-(1 / 2)) (-(1 / 4)) (Float.ofBits 0xbfdffffef20a4123) := by
  rw [← value_half, ← value_quarter]
  exact within_negative (by decide) (by decide) (by decide)

/-- Bounds of the coefficient of the third power. -/
lemma within_third : Within 0 (1 / 2) (Float.ofBits 0x3fd5575b0be00b6a) := by
  rw [← value_half, ← value_zero .binary64]
  exact within_positive (by decide) (by decide) (by decide)

/-- Bounds of the coefficient of the fourth power. -/
lemma within_fourth : Within (-(1 / 2)) (-(1 / 4)) (Float.ofBits 0xbfd00ea348b88334) := by
  rw [← value_half, ← value_quarter]
  exact within_negative (by decide) (by decide) (by decide)

/-- The logarithm of two. -/
lemma within_log_two : Within (1 / 2) 1 (Float.ofBits 0x3fe62e42fefa39ef) := by
  rw [← value_half, ← value_one]
  exact within_positive (by decide) (by decide) (by decide)

end constants

section correction

variable {r : Float} {ρ t : ℚ}

/-- The correction is negative, and small next to any bound on the square. -/
lemma within_correction (is : Is ρ r) (le : -1 / 32 ≤ ρ) (le' : ρ ≤ 1 / 32) (square : ρ * ρ ≤ t)
    (small : t ≤ 1 / 1024) (short : Short t) (short' : Short (9 / 16 * t)) :
    Within (-(9 / 16 * t)) 0 (correction r) := by
  -- Each step of the polynomial is kept between bounds of a few digits, from inside outwards.
  obtain ⟨σ, is_square, σ_nonneg, σ_le⟩ := is.mul is short_zero short (mul_self_nonneg ρ) square
  obtain ⟨α, is_α, α_nonneg, α_le⟩ := within_third
  obtain ⟨β, is_β, β_ge, β_le⟩ := within_second
  obtain ⟨γ, is_γ, γ_ge, γ_le⟩ := within_fourth
  obtain ⟨x, is_x, x_ge, x_le⟩ := is_α.mul is (l := -1 / 64) (h := 1 / 64)
    ⟨-1, 6, by decide, by decide, by norm_num⟩ ⟨1, 6, by decide, by decide, by norm_num⟩
    (by nlinarith) (by nlinarith)
  obtain ⟨y, is_y, y_ge, y_le⟩ := is_x.add is_β (l := -33 / 64) (h := -15 / 64)
    ⟨-33, 6, by decide, by decide, by norm_num⟩ ⟨-15, 6, by decide, by decide, by norm_num⟩
    (by linarith) (by linarith)
  obtain ⟨z, is_z, z_ge, z_le⟩ := is_γ.mul is_square (l := -1 / 2048) (h := 0)
    ⟨-1, 11, by decide, by decide, by norm_num⟩ short_zero (by nlinarith) (by nlinarith)
  obtain ⟨w, is_w, w_ge, w_le⟩ := is_z.add is_y (l := -9 / 16) (h := 0)
    ⟨-9, 4, by decide, by decide, by norm_num⟩ short_zero (by linarith) (by linarith)
  exact is_w.mul is_square short'.neg short_zero (by nlinarith) (by nlinarith)

end correction

section parts

/-- The bits of the inverse of the number `c` of a part. -/
def partInverse (i : ℕ) : UInt64 :=
  (logParts.getD i (0, 0)).1

/-- The bits of the logarithm of the number `c` of a part. -/
def partLog (i : ℕ) : UInt64 :=
  (logParts.getD i (0, 0)).2

/-- The bits of the double with the value of a normal number's bits. -/
def widenBits (n : ℕ) : ℕ :=
  n * 0x20000000 + 0x3800000000000000

/-- The bits of the least number of a part. -/
def partStart (i : ℕ) : ℕ :=
  0x3f330000 + i * 0x80000

/-- At the ends of every part, `z / c` is near one. -/
lemma near_of_ends : ∀ i < 16, (partInverse i).toNat < limit .binary64 ∧
    31 * 2 ^ 2148 ≤ 32 * (units .binary64 (widenBits (partStart i)) *
      units .binary64 (partInverse i).toNat) ∧
    32 * (units .binary64 (widenBits (partStart (i + 1))) *
      units .binary64 (partInverse i).toNat) ≤ 33 * 2 ^ 2148 := by
  decide +kernel

/-- The logarithms of the numbers `c` are small below one, -/
lemma partLog_low : ∀ i < 9, 2 ^ 63 ≤ (partLog i).toNat ∧
    (partLog i).toNat ≤ 2 ^ 63 + 0x3fd8000000000000 := by
  decide

/-- and not too small above it. -/
lemma partLog_high : ∀ i < 16, 10 ≤ i → 0x3fa8000000000000 ≤ (partLog i).toNat ∧
    (partLog i).toNat ≤ 0x3fe0000000000000 := by
  decide

/-- The logarithms of the parts above one are clearly positive. -/
lemma within_partLog_high {i : ℕ} (lt : i < 16) (high : 10 ≤ i) :
    Within (3 / 64) (1 / 2) (Float.ofBits (partLog i)) := by
  have value_low : value .binary64 0x3fa8000000000000 = 3 / 64 :=
    (value_binary64 (d := 1018) (f := 0x8000000000000) (by decide) (by decide) rfl).trans
      (by norm_num)
  obtain ⟨ge, le⟩ := partLog_high i lt high
  rw [← value_low, ← value_half]
  exact within_positive ge le (by decide)

/-- The logarithm of the part around one is zero. -/
lemma is_partLog : Is 0 (Float.ofBits (partLog 9)) := by
  rw [← value_zero .binary64]
  exact is_ofBits (s := .positive) rfl (by decide)

/-- The logarithms of all parts are small. -/
lemma within_partLog {i : ℕ} (lt : i < 16) :
    Within (-(3 / 8)) (1 / 2) (Float.ofBits (partLog i)) := by
  rcases lt_trichotomy i 9 with low | rfl | high
  · obtain ⟨ge, le⟩ := partLog_low i low
    obtain ⟨x, is, ge, le⟩ := within_negative (m := 0) ge le (by decide)
    rw [value_three_eighths] at ge
    rw [value_zero] at le
    exact ⟨x, is, ge, by linarith⟩
  · exact ⟨0, is_partLog, by norm_num, by norm_num⟩
  · obtain ⟨x, is, ge, le⟩ := within_partLog_high lt high
    exact ⟨x, is, by linarith, le⟩

variable {bits : UInt32} {i n : ℕ}

/-- To widen a normal number keeps its value. -/
lemma is_widen (normal : 0x00800000 ≤ bits.toNat) (finite : bits.toNat < 0x7f800000) :
    Is (value .binary64 (widenBits bits.toNat)) (widen bits) := by
  have same : (bits.toUInt64 * 0x20000000 + 0x3800000000000000).toNat = widenBits bits.toNat := by
    simp [UInt64.toNat_add, UInt64.toNat_mul, widenBits]
    omega
  refine is_ofBits (s := .positive) (same.trans (by simp [word, UnpackedFloat.Sign.toBitVec])) ?_
  show widenBits bits.toNat < 0x7ff0000000000000
  rw [widenBits]
  omega

/-- It keeps the order, too. -/
lemma value_widenBits_mono {m : ℕ} (le : m ≤ n) :
    value .binary64 (widenBits m) ≤ value .binary64 (widenBits n) := by
  rw [value_le_value_iff, widenBits, widenBits]
  omega

/-- Products of values are taken of their units. -/
lemma value_mul_value (m n : ℕ) : value .binary64 m * value .binary64 n =
    (units .binary64 m * units .binary64 n : ℕ) / 2 ^ 2148 := by
  rw [value_eq_div, value_eq_div, div_mul_div_comm, ← pow_add]
  push_cast
  rfl

/-- The value `z / c - 1`. -/
def rest (i : ℕ) (bits : UInt32) : Float :=
  widen bits * Float.ofBits (partInverse i) - 1

/-- The rest of a number in its part is small. -/
lemma within_rest (lt : i < 16) (start : partStart i ≤ bits.toNat)
    (stop : bits.toNat ≤ partStart (i + 1)) : Within (-1 / 32) (1 / 32) (rest i bits) := by
  obtain ⟨finite, low, high⟩ := near_of_ends i lt
  have is_z : Is (value .binary64 (widenBits bits.toNat)) (widen bits) :=
    is_widen (by rw [partStart] at start; omega) (by rw [partStart] at stop; omega)
  have is_inverse : Is (value .binary64 (partInverse i).toNat) (Float.ofBits (partInverse i)) :=
    is_ofBits (s := .positive) (by simp [word, UnpackedFloat.Sign.toBitVec]) finite
  have nonneg := value_nonneg .binary64 (partInverse i).toNat
  -- The product grows with the number, so that the ends of the part bound it.
  have ge : 31 / 32 ≤ value .binary64 (widenBits bits.toNat) *
      value .binary64 (partInverse i).toNat := by
    refine le_trans ?_ (mul_le_mul_of_nonneg_right (value_widenBits_mono start) nonneg)
    rw [value_mul_value, div_le_div_iff₀ (by norm_num) (by positivity), mul_comm _ (32 : ℚ)]
    exact_mod_cast low
  have le : value .binary64 (widenBits bits.toNat) * value .binary64 (partInverse i).toNat ≤
      33 / 32 := by
    refine (mul_le_mul_of_nonneg_right (value_widenBits_mono stop) nonneg).trans ?_
    rw [value_mul_value, div_le_div_iff₀ (by positivity) (by norm_num), mul_comm _ (32 : ℚ)]
    exact_mod_cast high
  obtain ⟨x, is_x, x_ge, x_le⟩ := is_z.mul is_inverse (l := 31 / 32) (h := 33 / 32)
    ⟨31, 5, by decide, by decide, by norm_num⟩ ⟨33, 5, by decide, by decide, by norm_num⟩ ge le
  exact is_x.sub is_one ⟨-1, 5, by decide, by decide, by norm_num⟩
    ⟨1, 5, by decide, by decide, by norm_num⟩ (by linarith) (by linarith)

/-- Above one the fraction is counted in steps of 2 to the -23rd. -/
lemma value_widenBits_above_one (small : n < 2 ^ 23) :
    value .binary64 (widenBits (0x3f800000 + n)) = (2 ^ 23 + n : ℕ) / 2 ^ 23 := by
  have fits : Fits .binary64 ((2 ^ 23 + n) * 2 ^ 29) (-52) := by
    refine ⟨by decide, ?_, .inr ?_⟩
    · show _ < 2 ^ 53
      omega
    · show 2 ^ 52 ≤ _
      omega
  have at' : placeOf .binary64 ((2 ^ 23 + n) * 2 ^ 29) (-52) = widenBits (0x3f800000 + n) := by
    show 1022 * 2 ^ 52 + _ = _
    rw [widenBits]
    omega
  rw [← at', fits.value]
  push_cast
  rw [mul_assoc, div_eq_mul_inv]
  norm_num

/-- Next to one it is exact. -/
lemma is_rest (small : n < 2 ^ 23) (eq : bits.toNat = 0x3f800000 + n) :
    Is (n / 2 ^ 23) (rest 9 bits) := by
  have is_z : Is (value .binary64 (widenBits bits.toNat)) (widen bits) :=
    is_widen (by omega) (by omega)
  rw [eq, value_widenBits_above_one small] at is_z
  have is_inverse : Is 1 (Float.ofBits (partInverse 9)) := by
    rw [← value_one]
    exact is_ofBits (s := .positive) rfl (by decide)
  -- Products and differences of so few digits are not rounded.
  have short : Short ((2 ^ 23 + n : ℕ) / 2 ^ 23) :=
    ⟨(2 ^ 23 + n : ℕ), 23, by omega, by decide, by rw [Int.cast_natCast]⟩
  have short' : Short (n / 2 ^ 23) := ⟨n, 23, by omega, by decide, by rw [Int.cast_natCast]⟩
  have is_product := (is_z.mul is_inverse short short (mul_one _).ge (mul_one _).le).is
  have difference : ((2 ^ 23 + n : ℕ) / 2 ^ 23 - 1 : ℚ) = n / 2 ^ 23 := by
    push_cast
    ring
  exact (is_product.sub is_one short' short' difference.ge difference.le).is

end parts

section sum

variable {r y : Float} {i k n : ℕ}

/-- The logarithm of `c` and the multiple of that of two. -/
def base (i k : ℕ) : Float :=
  Float.ofBits (partLog i) + Float.ofInt k * Float.ofBits 0x3fe62e42fefa39ef

/-- The exponents that can occur are converted to numbers from 1 to 128. -/
lemma ofInt_bounds : ∀ k : ℕ, k < 129 → 1 ≤ k →
    0x3ff0000000000000 ≤ (Float.ofInt k).toBits.toNat ∧
      (Float.ofInt k).toBits.toNat ≤ 0x4060000000000000 := by
  decide +kernel

/-- The exponent zero is converted to zero. -/
lemma ofInt_zero : (Float.ofInt (0 : ℕ)).toBits = 0 := by
  decide +kernel

/-- These bits are 128. -/
lemma value_128 : value .binary64 0x4060000000000000 = 128 :=
  (value_binary64 (d := 1030) (f := 0) (by decide) (by decide) rfl).trans (by norm_num)

/-- An exponent above zero is converted to a number of that range. -/
lemma within_ofInt (pos : 1 ≤ k) (le : k ≤ 128) : Within 1 128 (Float.ofInt k) := by
  obtain ⟨low, high⟩ := ofInt_bounds k (by omega) pos
  refine ⟨_, ⟨.positive, _, ?_, high.trans_lt (by decide), rfl⟩, ?_, ?_⟩
  · simp [word, UnpackedFloat.Sign.toBitVec]
  · rw [← value_one]
    exact value_le_value_iff.mpr low
  · rw [← value_128]
    exact value_le_value_iff.mpr high

/-- Such a multiple of the logarithm of two is at least a half. -/
lemma within_multiple (pos : 1 ≤ k) (le : k ≤ 128) :
    Within (1 / 2) 128 (Float.ofInt k * Float.ofBits 0x3fe62e42fefa39ef) := by
  obtain ⟨x, is_x, x_ge, x_le⟩ := within_ofInt pos le
  obtain ⟨l, is_l, l_ge, l_le⟩ := within_log_two
  exact is_x.mul is_l ⟨1, 1, by decide, by decide, by norm_num⟩
    ⟨128, 0, by decide, by decide, by norm_num⟩ (by nlinarith) (by nlinarith)

/-- The multiple by zero is zero. -/
lemma is_multiple : Is 0 (Float.ofInt (0 : ℕ) * Float.ofBits 0x3fe62e42fefa39ef) := by
  obtain ⟨l, is_l, -, -⟩ := within_log_two
  exact ((is_zero ofInt_zero).mul is_l short_zero short_zero (zero_mul l).ge (zero_mul l).le).is

/-- Next to one it is zero. -/
lemma is_base : Is 0 (base 9 0) :=
  (is_partLog.add is_multiple short_zero short_zero (add_zero 0).ge (add_zero 0).le).is

/-- Away from one it is not small. -/
lemma within_base (lt : i < 16) (le : k ≤ 128) (far : 1 ≤ k ∨ 10 ≤ i) :
    Within (3 / 64) 129 (base i k) := by
  have short : Short (3 / 64) := ⟨3, 6, by decide, by decide, by norm_num⟩
  have short' : Short 129 := ⟨129, 0, by decide, by decide, by norm_num⟩
  -- Without a power of two the part itself lies above one.
  rcases Nat.eq_zero_or_pos k with rfl | pos
  · obtain ⟨x, is_x, ge, le⟩ := within_partLog_high lt (far.resolve_left (by decide))
    exact is_x.add is_multiple short short' (by linarith) (by linarith)
  · obtain ⟨x, is_x, ge, le⟩ := within_partLog lt
    obtain ⟨m, is_m, ge', le'⟩ := within_multiple pos ‹k ≤ 128›
    exact is_x.add is_m short short' (by linarith) (by linarith)

/-- Far from one the logarithm of the part outweighs what the polynomial takes. -/
lemma within_sum_far (rest : Within (-1 / 32) (1 / 32) r) (base : Within (3 / 64) 129 y) :
    Within (1 / 128) 256 (correction r + (y + r)) := by
  obtain ⟨ρ, is_ρ, ρ_ge, ρ_le⟩ := rest
  obtain ⟨x, is_x, x_ge, x_le⟩ := base
  obtain ⟨c, is_c, c_ge, c_le⟩ := within_correction (t := 1 / 1024) is_ρ ρ_ge ρ_le (by nlinarith)
    le_rfl ⟨1, 10, by decide, by decide, by norm_num⟩ ⟨9, 14, by decide, by decide, by norm_num⟩
  obtain ⟨s, is_s, s_ge, s_le⟩ := is_x.add is_ρ (l := 1 / 64) (h := 130)
    ⟨1, 6, by decide, by decide, by norm_num⟩ ⟨130, 0, by decide, by decide, by norm_num⟩
    (by linarith) (by linarith)
  exact is_c.add is_s ⟨1, 7, by decide, by decide, by norm_num⟩
    ⟨256, 0, by decide, by decide, by norm_num⟩ (by linarith) (by linarith)

/-- Just above one the polynomial takes less than it is given. -/
lemma within_sum_near (pos : 0 < n) (small : n ≤ 0x30000) (rest : Is (n / 2 ^ 23) r)
    (base : Is 0 y) : Within (1 / 2 ^ 24) 256 (correction r + (y + r)) := by
  have n_pos : (1 : ℚ) ≤ n := by exact_mod_cast pos
  have n_le : (n : ℚ) ≤ 0x30000 := by exact_mod_cast small
  have short : Short (n / 2 ^ 23) := ⟨n, 23, by omega, by decide, by rw [Int.cast_natCast]⟩
  obtain ⟨c, is_c, c_ge, c_le⟩ := within_correction (t := n / 2 ^ 28) rest (by linarith)
    (by linarith) (by nlinarith) (by linarith)
    ⟨n, 28, by omega, by decide, by rw [Int.cast_natCast]⟩
    ⟨9 * n, 32, by omega, by decide, by push_cast; ring⟩
  have sum := (base.add rest short short (zero_add _).ge (zero_add _).le).is
  exact is_c.add sum ⟨1, 24, by decide, by decide, by norm_num⟩
    ⟨256, 0, by decide, by decide, by norm_num⟩ (by linarith) (by linarith)

end sum

section log

variable {bits : UInt32} {x : Single} {k w : ℕ}

/-- To mask the fraction leaves the whole multiples of 2 to the 23rd. -/
lemma and_mask {m : ℕ} (lt : m < 2 ^ 32) : m &&& 0xff800000 = m / 2 ^ 23 * 2 ^ 23 := by
  have mask : 0xff800000 = (2 ^ 9 - 1) <<< 23 := rfl
  -- Bit by bit: those below the mask are cleared, and none are above it.
  refine Nat.eq_of_testBit_eq fun i => ?_
  rw [mask, Nat.testBit_and, Nat.testBit_shiftLeft, Nat.testBit_two_pow_sub_one,
    ← Nat.shiftLeft_eq, Nat.testBit_shiftLeft, Nat.testBit_div_two_pow]
  by_cases low : 23 ≤ i
  · by_cases high : i - 23 < 9
    · simp [low, high]
    · have none : m.testBit i = false :=
        Nat.testBit_lt_two_pow (lt.trans_le (Nat.pow_le_pow_right two_pos (by omega)))
      simp [low, none]
  · simp [low]

/-- The parts of a number's bits that the logarithm is computed from. -/
structure Parted (bits : UInt32) (k w : ℕ) : Prop where
  eq : bits.toNat = 0x3f330000 + k * 2 ^ 23 + w
  lt : w < 2 ^ 23
  le : k ≤ 128

/-- The offset of the bits has the exponent and the place in the octave. -/
lemma Parted.offset (parted : Parted bits k w) :
    (bits - 0x3f330000).toNat = k * 2 ^ 23 + w := by
  obtain ⟨eq, lt, le⟩ := parted
  have start : (0x3f330000 : UInt32).toNat = 0x3f330000 := rfl
  rw [UInt32.toNat_sub_of_le _ _ (by rw [UInt32.le_iff_toNat_le, eq, start]; omega), eq, start]
  omega

/-- The part is given by the first four bits of the place. -/
lemma Parted.part (parted : Parted bits k w) :
    (((bits - 0x3f330000) >>> 19) % 16).toNat = w / 2 ^ 19 := by
  have lt := parted.lt
  show ((bits - 0x3f330000).toNat >>> 19) % 16 = _
  rw [parted.offset, Nat.shiftRight_eq_div_pow]
  omega

/-- The exponent is what stands before the place. -/
lemma Parted.exponent (parted : Parted bits k w) :
    ((bits - 0x3f330000).toInt32 >>> 23).toInt = k := by
  have lt := parted.lt
  have le := parted.le
  have offset : (bits - 0x3f330000).toBitVec.toNat = k * 2 ^ 23 + w := parted.offset
  have places : (23 : Int32).toBitVec.smod 32 = 23#32 := by decide
  show (BitVec.sshiftRight' (bits - 0x3f330000).toBitVec ((23 : Int32).toBitVec.smod 32)).toInt = _
  rw [places, BitVec.toInt_sshiftRight', BitVec.toInt_eq_toNat_of_lt (by omega), offset,
    Int.shiftRight_eq_div_pow]
  show ((k * 2 ^ 23 + w : ℕ) : ℤ) / 2 ^ 23 = k
  omega

/-- Without the exponent a number is brought into the octave around one. -/
lemma Parted.scaled (parted : Parted bits k w) :
    (bits - ((bits - 0x3f330000) &&& 0xff800000)).toNat = 0x3f330000 + w := by
  have lt := parted.lt
  have eq := parted.eq
  have whole : ((bits - 0x3f330000) &&& 0xff800000).toNat = k * 2 ^ 23 := by
    rw [UInt32.toNat_and, parted.offset]
    show (k * 2 ^ 23 + w) &&& 0xff800000 = _
    rw [and_mask (parted.offset ▸ (bits - 0x3f330000).toNat_lt)]
    omega
  rw [UInt32.toNat_sub_of_le _ _ (by rw [UInt32.le_iff_toNat_le, whole]; omega), whole]
  omega

/-- The logarithm is put together from that of the part, the multiple and the rest. -/
lemma Parted.logOfBits_eq (parted : Parted bits k w) : ∃ b : UInt32, b.toNat = 0x3f330000 + w ∧
    logOfBits bits = narrow (correction (rest (w / 2 ^ 19) b) +
      (base (w / 2 ^ 19) k + rest (w / 2 ^ 19) b)) := by
  refine ⟨_, parted.scaled, ?_⟩
  rw [← parted.part, base, ← parted.exponent]
  rfl

/-- Above one, the sum that is rounded is neither small nor great. -/
lemma Parted.within (parted : Parted bits k w) (above : 0x3f800000 < bits.toNat) {b : UInt32}
    (eq : b.toNat = 0x3f330000 + w) : Within (1 / 2 ^ 24) 256
      (correction (rest (w / 2 ^ 19) b) + (base (w / 2 ^ 19) k + rest (w / 2 ^ 19) b)) := by
  have lt := parted.lt
  have own := parted.eq
  -- Near one the base is zero, and the rest alone must outweigh the correction.
  by_cases far : 1 ≤ k ∨ 10 ≤ w / 2 ^ 19
  · have part : w / 2 ^ 19 < 16 := by omega
    have rest : Within (-1 / 32) (1 / 32) (rest (w / 2 ^ 19) b) :=
      within_rest part (by rw [partStart]; omega) (by rw [partStart]; omega)
    obtain ⟨x, is, ge, le⟩ := within_sum_far rest (within_base part parted.le far)
    exact ⟨x, is, by linarith, le⟩
  · have zero : k = 0 := by omega
    have nine : w / 2 ^ 19 = 9 := by omega
    rw [zero, nine]
    obtain ⟨n, above⟩ := Nat.exists_eq_add_of_lt above
    exact within_sum_near (n := n + 1) (by omega) (by omega) (is_rest (by omega) (by omega))
      is_base

/-- A number above one is cut into parts. -/
lemma exists_parted (above : 0x3f800000 < bits.toNat) (finite : bits.toNat < 0x7f800000) :
    ∃ k w, Parted bits k w :=
  ⟨(bits.toNat - 0x3f330000) / 2 ^ 23, (bits.toNat - 0x3f330000) % 2 ^ 23, by omega, by omega,
    by omega⟩

/-- The bits of a double between the bounds on the sum. -/
lemma toBits_bounds {a : Float} (within : Within (1 / 2 ^ 24) 256 a) :
    0x3e70000000000000 ≤ a.toBits.toNat ∧ a.toBits.toNat ≤ 0x4070000000000000 := by
  obtain ⟨x, ⟨s, n, bits, -, rfl⟩, ge, le⟩ := within
  have low : value .binary64 0x3e70000000000000 = 1 / 2 ^ 24 :=
    (value_binary64 (d := 999) (f := 0) (by decide) (by decide) rfl).trans (by norm_num)
  have high : value .binary64 0x4070000000000000 = 256 :=
    (value_binary64 (d := 1031) (f := 0) (by decide) (by decide) rfl).trans (by norm_num)
  have nonneg := value_nonneg .binary64 n
  -- A number between positive bounds has no negative sign.
  cases s with
  | negative =>
    simp only [signed] at ge
    norm_num at ge
    linarith
  | positive =>
    have own : word .binary64 .positive n = n := by simp [word, UnpackedFloat.Sign.toBitVec]
    rw [bits, own]
    simp only [signed] at ge le
    rw [← low, value_le_value_iff] at ge
    rw [← high, value_le_value_iff] at le
    exact ⟨ge, le⟩

/-- Rounding to single precision keeps them. -/
lemma narrow_bounds {a : Float} (within : Within (1 / 2 ^ 24) 256 a) :
    0x33800000 ≤ (narrow a).bits ∧ (narrow a).bits ≤ 0x43800000 := by
  obtain ⟨low, high⟩ := toBits_bounds within
  have size : (a.toBits &&& 0x7fffffffffffffff).toNat = a.toBits.toNat := by
    rw [UInt64.toNat_and]
    show a.toBits.toNat &&& (2 ^ 63 - 1) = _
    rw [Nat.and_two_pow_sub_one_eq_mod, Nat.mod_eq_of_lt (by omega)]
  have size : a.toBits &&& 0x7fffffffffffffff = a.toBits := UInt64.toNat_inj.mp size
  have nonzero : a.toBits ≠ 0 := by
    intro zero
    rw [zero] at low
    exact absurd low (by decide)
  have sign : a.toBits < 0x8000000000000000 := by
    rw [UInt64.lt_iff_toNat_lt]
    exact high.trans_lt (by decide)
  have shifted : (a.toBits - 0x3800000000000000).toNat = a.toBits.toNat - 0x3800000000000000 := by
    rw [UInt64.toNat_sub_of_le _ _ (by rw [UInt64.le_iff_toNat_le]; exact le_trans (by decide) low)]
    rfl
  -- The exponent is one of single precision, so that only the digits are rounded.
  simp only [narrow, size, if_neg nonzero, if_pos sign, UInt32.zero_or, UInt32.le_iff_toNat_le]
  generalize a.toBits - 0x3800000000000000 = v at shifted
  have rounded : ((v + 0xfffffff + v / 0x20000000 % 2) / 0x20000000).toUInt32.toNat =
      (v.toNat + 0xfffffff + v.toNat / 0x20000000 % 2) / 0x20000000 := by
    simp only [UInt64.toNat_toUInt32, UInt64.toNat_div, UInt64.toNat_add, UInt64.toNat_mod,
      UInt64.reduceToNat]
    omega
  have lower : (0x33800000 : UInt32).toNat = 0x33800000 := rfl
  have upper : (0x43800000 : UInt32).toNat = 0x43800000 := rfl
  rw [rounded, lower, upper]
  omega

/-- No special case is made of a normal number that is finite. -/
lemma log_of_finite (normal : 0x00800000 ≤ x.bits.toNat) (finite : x.bits.toNat < 0x7f800000) :
    x.log = logOfBits x.bits := by
  have amount : x.IsAmount := UInt32.le_iff_toNat_le.mpr finite.le
  have magnitude : x.magnitude = x.bits := by
    refine UInt32.toNat_inj.mp ?_
    rw [Single.magnitude, UInt32.toNat_and]
    show x.bits.toNat &&& (2 ^ 31 - 1) = _
    rw [Nat.and_two_pow_sub_one_eq_mod, Nat.mod_eq_of_lt (by omega)]
  have apart {c : UInt32} (ne : x.bits.toNat ≠ c.toNat) : x.bits ≠ c :=
    fun eq => ne (congrArg UInt32.toNat eq)
  have nonzero : x.bits ≠ 0 := apart (by show _ ≠ 0; omega)
  have bounded : x.bits ≠ 0x7f800000 := apart finite.ne
  have sign : ¬ 0x80000000 ≤ x.bits := by
    rw [UInt32.le_iff_toNat_le]
    show ¬ 0x80000000 ≤ _
    omega
  have large : ¬ x.bits < 0x00800000 := by
    rw [UInt32.lt_iff_toNat_lt]
    exact normal.not_gt
  simp only [log, amount.not_isNaN, isNegative, isInfinite, magnitude, if_neg nonzero,
    decide_eq_false sign, beq_eq_false_iff_ne.mpr bounded, if_neg large, Bool.false_eq_true,
    if_false]

/-- The logarithm of a number above one is positive and finite. -/
theorem log_bounds (above : one.bits < x.bits) (finite : x.bits < infinity.bits) :
    0x33800000 ≤ x.log.bits ∧ x.log.bits ≤ 0x43800000 := by
  have above : 0x3f800000 < x.bits.toNat := UInt32.lt_iff_toNat_lt.mp above
  have finite : x.bits.toNat < 0x7f800000 := UInt32.lt_iff_toNat_lt.mp finite
  obtain ⟨k, w, parted⟩ := exists_parted above finite
  obtain ⟨b, eq, value⟩ := parted.logOfBits_eq
  rw [log_of_finite (by omega) finite, value]
  exact narrow_bounds (parted.within above eq)

/-- The logarithm of one is zero. -/
lemma log_one : one.log = zero := by
  decide +kernel

/-- The logarithm of infinity is infinity. -/
lemma log_infinity : infinity.log = infinity := by
  decide

end log

end Single
end PageSearch
