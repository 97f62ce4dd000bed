import PageSearch.Number.Single
import PageSearch.Proofs.Number.Packed

/-!
# Amounts in single precision

Weights are computed from numbers that are not negative. Their bits are in the order of their
values, and an operation on them gives the number nearest to its exact result, or infinity where
that is too great. Greater operands therefore never give a smaller sum or product, which carries a
bound on a result over from the bounds on the operands.
-/

namespace PageSearch
namespace Single

open Rounding Float.Model

/-- A number that is not negative, infinity included. -/
def IsAmount (x : Single) : Prop :=
  x.bits ≤ infinity.bits

instance (x : Single) : Decidable x.IsAmount :=
  inferInstanceAs (Decidable (x.bits ≤ infinity.bits))

/-- The value of an amount, infinity being 2 to the 128th. -/
def real (x : Single) : ℚ :=
  value .binary32 x.bits.toNat

/-- An operation takes numbers apart, computes with the parts, and packs what comes out. -/
def Agrees (op : Float32 → Float32 → Float32)
    (op' : UnpackedFloat → UnpackedFloat → UnpackedFloat) : Prop :=
  ∀ a b, (op a b).toBits = UInt32.ofBitVec
    (UnpackedFloat.pack .binary32 (op' a.toModel.unpack b.toModel.unpack))

section bits

variable {x y z : Single} {r : ℚ} {n : ℕ} {op : Float32 → Float32 → Float32}
  {op' : UnpackedFloat → UnpackedFloat → UnpackedFloat}

/-- The place of infinity in single precision. -/
lemma limit_binary32 : limit .binary32 = infinity.bits.toNat := rfl

/-- A positive number is its place. -/
lemma word_positive (n : ℕ) : word .binary32 .positive n = n := by
  simp [word, UnpackedFloat.Sign.toBitVec]

/-- An amount has a place up to that of infinity. -/
lemma isAmount_iff : x.IsAmount ↔ x.bits.toNat ≤ limit .binary32 := by
  rw [IsAmount, UInt32.le_iff_toNat_le]
  rfl

/-- An amount is a number. -/
lemma IsAmount.not_isNaN (amount : x.IsAmount) : x.isNaN = false := by
  have le := isAmount_iff.mp amount
  have mask : x.magnitude.toNat ≤ x.bits.toNat := by
    rw [magnitude, UInt32.toNat_and]
    exact Nat.and_le_left
  have : ¬ 0x7f800000 < x.magnitude.toNat := by
    rw [limit_binary32] at le
    exact not_lt.mpr (mask.trans le)
  simpa [isNaN, UInt32.lt_iff_toNat_lt] using this

/-- The positive numbers are the amounts but zero. -/
lemma isPositive_iff : x.isPositive = true ↔ x.IsAmount ∧ x ≠ zero := by
  obtain ⟨bits⟩ := x
  simp only [isPositive, IsAmount, zero, infinity, ne_eq, Single.mk.injEq, Bool.and_eq_true,
    decide_eq_true_eq, ← UInt32.toNat_inj, UInt32.lt_iff_toNat_lt, UInt32.le_iff_toNat_le]
  exact and_comm.trans (and_congr_right' Nat.pos_iff_ne_zero)

/-- A number is its bits. -/
lemma eq_of_bits (eq : x.bits.toNat = y.bits.toNat) : x = y := by
  obtain ⟨bits⟩ := x
  obtain ⟨bits'⟩ := y
  rw [Single.mk.injEq]
  exact UInt32.toNat_inj.mp eq

/-- The values are in the order of the bits. -/
lemma real_le_real_iff : x.real ≤ y.real ↔ x.bits ≤ y.bits := by
  rw [real, real, value_le_value_iff, UInt32.le_iff_toNat_le]

/-- No value is negative. -/
lemma real_nonneg (x : Single) : 0 ≤ x.real :=
  value_nonneg _ _

/-- The value of zero. -/
lemma real_zero : zero.real = 0 :=
  value_zero _

/-- Every other value is positive. -/
lemma real_pos (ne : x ≠ zero) : 0 < x.real := by
  rw [← real_zero]
  refine value_lt_value_iff.mpr (Nat.pos_of_ne_zero fun eq => ne (eq_of_bits eq))

/-- A value has the place that it is taken from. -/
lemma place_real (x : Single) : place .binary32 x.real = x.bits.toNat :=
  place_value _ _

/-- What the bits of an amount are taken apart into. -/
def unpacked (x : Single) : UnpackedFloat :=
  UnpackedFloat.unpack .binary32 x.bits.toBitVec

/-- What is unpacked of a finite amount is its value. -/
lemma holds_unpacked (amount : x.IsAmount) (finite : x ≠ infinity) :
    Holds .binary32 .positive x.real x.unpacked := by
  refine holds_unpack (word_positive _).symm (lt_of_le_of_ne (isAmount_iff.mp amount) ?_)
  exact fun eq => finite (eq_of_bits eq)

/-- Infinity is unpacked as such. -/
lemma unpacked_infinity : infinity.unpacked = .infinity .positive := by
  exact unpack_limit (word_positive _).symm

/-- So is zero. -/
lemma unpacked_zero : zero.unpacked = .zero .positive := rfl

/-- To pack an amount again gives its bits. -/
lemma pack_unpacked (amount : x.IsAmount) :
    UnpackedFloat.pack .binary32 x.unpacked = x.bits.toBitVec :=
  pack_unpack_of_le (S := .binary32) (by decide) (word_positive x.bits.toNat).symm
    (isAmount_iff.mp amount)

/-- An amount is handed to an operation with its bits. -/
lemma toBits_toFloat32 (amount : x.IsAmount) : x.toFloat32.toBits = x.bits :=
  congrArg UInt32.ofBitVec (pack_unpacked amount)

/-- It is taken apart there into the same parts. -/
lemma unpack_toFloat32 (amount : x.IsAmount) : x.toFloat32.toModel.unpack = x.unpacked := by
  show UnpackedFloat.unpack .binary32 x.toFloat32.toBits.toBitVec = _
  rw [toBits_toFloat32 amount]
  rfl

/-- What an operation gives is taken over with its bits. -/
lemma bits_ofFloat32 {a : Float32} (eq : a.toBits.toNat = n) (le : n ≤ limit .binary32) :
    (ofFloat32 a).bits.toNat = n := by
  have amount : (Single.mk a.toBits).IsAmount := isAmount_iff.mpr (eq ▸ le)
  rw [ofFloat32, amount.not_isNaN]
  exact eq

/-- The bits of what comes from unpacked amounts. -/
lemma bits_operate (agrees : Agrees op op') (left : x.IsAmount) (right : y.IsAmount)
    (eq : (UnpackedFloat.pack .binary32 (op' x.unpacked y.unpacked)).toNat = n)
    (le : n ≤ limit .binary32) : (operate op x y).bits.toNat = n := by
  rw [operate, left.not_isNaN, right.not_isNaN]
  refine bits_ofFloat32 ?_ le
  rw [agrees, unpack_toFloat32 left, unpack_toFloat32 right]
  exact eq

/-- The result of an operation is known from its parts. -/
lemma operate_eq (agrees : Agrees op op') (left : x.IsAmount) (right : y.IsAmount)
    (amount : z.IsAmount) (eq : op' x.unpacked y.unpacked = z.unpacked) : operate op x y = z := by
  refine eq_of_bits (bits_operate agrees left right ?_ (isAmount_iff.mp amount))
  rw [eq, pack_unpacked amount]
  rfl

/-- A rounded number is packed at its place, or as infinity if that is too far. -/
lemma toNat_pack_positive {u : UnpackedFloat} (rounds : Rounds .binary32 .positive r u) :
    (UnpackedFloat.pack .binary32 u).toNat = min (place .binary32 r) (limit .binary32) := by
  rw [toNat_pack (by decide) rounds, word_positive]

/-- An amount is infinite, zero or finite and positive. -/
lemma unpacked_cases (amount : x.IsAmount) :
    x = infinity ∨ x = zero ∨ ∃ m e pos, x.unpacked = .finite .positive m e pos := by
  by_cases infinite : x = infinity
  · exact .inl infinite
  · by_cases empty : x = zero
    · exact .inr (.inl empty)
    · have pos := real_pos empty
      have holds := holds_unpacked amount infinite
      generalize x.unpacked = u at holds ⊢
      cases holds with
      | zero eq => linarith
      | finite m_pos fits eq => exact .inr (.inr ⟨_, _, m_pos, rfl⟩)

/-- With infinity on the right, it only matters if the other amount is infinity, zero or neither. -/
lemma operate_infinity (agrees : Agrees op op') (left : x.IsAmount) (amount : z.IsAmount)
    (both : x = infinity → op' (.infinity .positive) (.infinity .positive) = z.unpacked)
    (none : x = zero → op' (.zero .positive) (.infinity .positive) = z.unpacked)
    (some : ∀ m e pos, op' (.finite .positive m e pos) (.infinity .positive) = z.unpacked) :
    operate op x infinity = z := by
  refine operate_eq agrees left (by decide) amount ?_
  rw [unpacked_infinity]
  rcases unpacked_cases left with rfl | rfl | ⟨m, e, pos, eq⟩
  · rw [unpacked_infinity, both rfl]
  · rw [unpacked_zero, none rfl]
  · rw [eq, some]

/-- What an operation gives for infinity is known from the three kinds of amounts. -/
lemma infinity_operate (agrees : Agrees op op') (right : y.IsAmount) (amount : z.IsAmount)
    (both : y = infinity → op' (.infinity .positive) (.infinity .positive) = z.unpacked)
    (none : y = zero → op' (.infinity .positive) (.zero .positive) = z.unpacked)
    (some : ∀ m e pos, op' (.infinity .positive) (.finite .positive m e pos) = z.unpacked) :
    operate op infinity y = z := by
  refine operate_eq agrees (by decide) right amount ?_
  rw [unpacked_infinity]
  rcases unpacked_cases right with rfl | rfl | ⟨m, e, pos, eq⟩
  · rw [unpacked_infinity, both rfl]
  · rw [unpacked_zero, none rfl]
  · rw [eq, some]

/-- A sum with infinity is infinite. -/
lemma add_infinity (left : x.IsAmount) : x + infinity = infinity :=
  operate_infinity (fun _ _ => rfl) left (by decide) (fun _ => unpacked_infinity.symm)
    (fun _ => unpacked_infinity.symm) (fun _ _ _ => unpacked_infinity.symm)

/-- So it is with infinity on the left. -/
lemma infinity_add (right : y.IsAmount) : infinity + y = infinity :=
  infinity_operate (fun _ _ => rfl) right (by decide) (fun _ => unpacked_infinity.symm)
    (fun _ => unpacked_infinity.symm) (fun _ _ _ => unpacked_infinity.symm)

/-- So is a product, but for zero. -/
lemma mul_infinity (left : x.IsAmount) (ne : x ≠ zero) : x * infinity = infinity :=
  operate_infinity (fun _ _ => rfl) left (by decide) (fun _ => unpacked_infinity.symm)
    (fun eq => absurd eq ne) (fun _ _ _ => unpacked_infinity.symm)

/-- So it is with infinity on the left. -/
lemma infinity_mul (right : y.IsAmount) (ne : y ≠ zero) : infinity * y = infinity :=
  infinity_operate (fun _ _ => rfl) right (by decide) (fun _ => unpacked_infinity.symm)
    (fun eq => absurd eq ne) (fun _ _ _ => unpacked_infinity.symm)

/-- A part of infinity is infinite. -/
lemma infinity_div (right : y.IsAmount) (finite : y ≠ infinity) (ne : y ≠ zero) :
    infinity / y = infinity :=
  infinity_operate (fun _ _ => rfl) right (by decide) (fun eq => absurd eq finite)
    (fun eq => absurd eq ne) (fun _ _ _ => unpacked_infinity.symm)

/-- A finite amount divided by infinity is zero. -/
lemma div_infinity (left : x.IsAmount) (finite : x ≠ infinity) : x / infinity = zero :=
  operate_infinity (fun _ _ => rfl) left (by decide) (fun eq => absurd eq finite)
    (fun _ => unpacked_zero.symm) (fun _ _ _ => unpacked_zero.symm)

/-- A sum is the amount nearest to that of the values. -/
theorem bits_add (left : x.IsAmount) (right : y.IsAmount) :
    (x + y).bits.toNat = min (place .binary32 (x.real + y.real)) (limit .binary32) := by
  have x_nonneg := real_nonneg x
  have y_nonneg := real_nonneg y
  by_cases infinite : x = infinity ∨ y = infinity
  · have large : limit .binary32 ≤ place .binary32 (x.real + y.real) := by
      rw [limit_binary32, ← place_real]
      refine place_mono (real_nonneg _) ?_
      rcases infinite with rfl | rfl <;> linarith
    rw [min_eq_right large, limit_binary32]
    rcases infinite with rfl | rfl
    · rw [infinity_add right]
    · rw [add_infinity left]
  · rw [not_or] at infinite
    -- The sum of two zeros has a sign by a rule of its own.
    by_cases empty : x = zero ∧ y = zero
    · obtain ⟨rfl, rfl⟩ := empty
      rw [real_zero, add_zero, place_zero]
      decide
    · obtain ⟨s, z, sum, nonneg, rounds⟩ := Has.add ⟨_, _, rfl, holds_unpacked left infinite.1⟩
        ⟨_, _, rfl, holds_unpacked right infinite.2⟩
      have pos : 0 < x.real + y.real := by
        rcases not_and_or.mp empty with ne | ne
        · linarith [real_pos ne]
        · linarith [real_pos ne]
      cases s with
      | negative =>
        simp only [signed] at sum
        linarith
      | positive =>
        refine bits_operate (fun _ _ => rfl) left right ?_ (min_le_right _ _)
        exact toNat_pack_positive (sum ▸ rounds)

/-- A product is the amount nearest to that of the values. -/
theorem bits_mul (left : x.IsAmount) (right : y.IsAmount) (finite : x ≠ infinity)
    (finite' : y ≠ infinity) :
    (x * y).bits.toNat = min (place .binary32 (x.real * y.real)) (limit .binary32) := by
  refine bits_operate (fun _ _ => rfl) left right ?_ (min_le_right _ _)
  exact toNat_pack_positive ((holds_unpacked left finite).mul (holds_unpacked right finite'))

/-- A quotient is the amount nearest to that of the values. -/
theorem bits_div (left : x.IsAmount) (right : y.IsAmount) (finite : x ≠ infinity)
    (finite' : y ≠ infinity) (ne : y ≠ zero) :
    (x / y).bits.toNat = min (place .binary32 (x.real / y.real)) (limit .binary32) := by
  refine bits_operate (fun _ _ => rfl) left right ?_ (min_le_right _ _)
  exact toNat_pack_positive ((holds_unpacked left finite).div (holds_unpacked right finite')
    (real_pos ne).ne')

protected lemma zero_mul (right : y.IsAmount) (finite : y ≠ infinity) : zero * y = zero := by
  refine eq_of_bits ?_
  rw [bits_mul (by decide) right (by decide) finite, real_zero, zero_mul, place_zero]
  rfl

/-- The value of one. -/
lemma real_one : one.real = 1 := by
  have bits : one.bits.toNat = 1065353216 := rfl
  norm_num [real, bits, value, units, Format.minExponent, Format.mantissaBits]

/-- Up to this number the whole numbers are converted by a multiplication. -/
lemma real_pow : (⟨0x4b000000⟩ : Single).real = 2 ^ 23 := by
  have bits : (0x4b000000 : UInt32).toNat = 1258291200 := rfl
  norm_num [real, bits, value, units, Format.minExponent, Format.mantissaBits]

end bits

section ofNat

/-- A whole number is converted by a multiplication, or read as a numeral if it is great. -/
lemma ofNat_eq (n : ℕ) : Float32.ofNat n =
    if n < 2 ^ 23 then n.toUInt64.toFloat32 * one.toFloat32
    else Float32.ofModel (Float32.Model.ofScientific n 0) := by
  show Float32.ofScientific n false 0 = _
  unfold Float32.ofScientific
  by_cases small : n < 2 ^ 23
  · rw [if_pos small, dif_pos ⟨small, by decide⟩]
    rfl
  · rw [if_neg small, dif_neg fun both => small both.1]
    rfl

/-- The bits of a small count before it is multiplied by one. -/
lemma toNat_toBits_toFloat32 {n : ℕ} (pos : 0 < n) (small : n < 2 ^ 23) :
    n.toUInt64.toFloat32.toBits.toNat = min (place .binary32 n) (limit .binary32) := by
  have same : n.toUInt64.toNat = n := UInt64.toNat_ofNat_of_lt' (by
    have : UInt64.size = 2 ^ 64 := rfl
    omega)
  have rounds := rounds_round (S := .binary32) .positive pos 0
  rw [zpow_zero, mul_one] at rounds
  show (UnpackedFloat.pack .binary32 (UnpackedFloat.normalize .binary32
    ((n.toUInt64.toNat : ℕ) : ℤ) 0 .positive)).toNat = _
  rw [same, normalize_natCast pos]
  exact toNat_pack_positive rounds

/-- A numeral without a power of ten is rounded once. -/
lemma rounds_ofScientific {n : ℕ} (pos : 0 < n) :
    Rounds .binary32 .positive n (UnpackedFloat.ofScientific .binary32 n 0) := by
  have shifted : n <<< Format.binary32.mantissaBits = n * 2 ^ 24 := Nat.shiftLeft_eq _ _
  have shifted_pos : 0 < n <<< Format.binary32.mantissaBits := by omega
  have value : (n : ℚ) = (n <<< Format.binary32.mantissaBits : ℕ) * 2 ^ (-24 : ℤ) *
      ((10 ^ (0 : ℤ).toNat : ℕ) * 2 ^ (0 : ℤ)) := by
    rw [shifted]
    push_cast
    rw [mul_assoc (n : ℚ)]
    norm_num
  have low : ¬ (0 : ℤ) < -(2 ^ Format.binary32.exponentBits + n.log2) := by
    have : (0 : ℤ) < 2 ^ Format.binary32.exponentBits := by positivity
    omega
  have enough : 2 ^ fractionBits .binary32 ≤
      n <<< Format.binary32.mantissaBits * 10 ^ (0 : ℤ).toNat := by
    rw [shifted, Int.toNat_zero, pow_zero]
    show 2 ^ 23 ≤ _
    omega
  have power : 0 < 10 ^ (0 : ℤ).toNat := by decide
  unfold UnpackedFloat.ofScientific
  rw [dif_neg pos.ne', if_neg (by decide), if_neg low, if_pos le_rfl, value]
  have rounds : Rounds .binary32 (.positive * .positive) _
      (UnpackedFloat.mul .binary32 (.finite .positive _ (-24) shifted_pos)
        (.finite .positive _ 0 power)) :=
    rounds_mul shifted_pos power (.inr enough)
  exact rounds

/-- A count is the amount nearest to it. -/
theorem bits_ofNat (n : ℕ) :
    (ofNat n).bits.toNat = min (place .binary32 n) (limit .binary32) := by
  rcases Nat.eq_zero_or_pos n with rfl | pos
  · rw [Nat.cast_zero, place_zero]
    decide
  refine bits_ofFloat32 ?_ (min_le_right _ _)
  rw [ofNat_eq]
  split_ifs with small
  · -- A small count is converted first, and then multiplied by one, which changes nothing.
    have bits := toNat_toBits_toFloat32 pos small
    let y : Single := ⟨n.toUInt64.toFloat32.toBits⟩
    have amount : y.IsAmount := isAmount_iff.mpr (bits.trans_le (min_le_right _ _))
    have finite : y ≠ infinity := by
      have le : place .binary32 n ≤ (⟨0x4b000000⟩ : Single).bits.toNat := by
        rw [← place_real, real_pow]
        exact place_mono (Nat.cast_nonneg n) (by exact_mod_cast small.le)
      intro infinite
      have low : y.bits.toNat ≤ (0x4b000000 : UInt32).toNat :=
        bits.trans_le ((min_le_left _ _).trans le)
      rw [infinite] at low
      exact absurd low (by decide)
    have rounds := (holds_unpacked amount finite).mul
      (holds_unpacked (by decide : one.IsAmount) (by decide))
    rw [← unpack_toFloat32 (by decide : one.IsAmount), real_one, mul_one] at rounds
    have packed := toNat_pack_positive rounds
    rw [place_real, bits, min_assoc, min_self] at packed
    exact packed
  · exact toNat_pack_positive (rounds_ofScientific pos)

end ofNat

section order

variable {x y x' y' : Single}

/-- What is below an amount is one. -/
lemma isAmount_of_le (amount : y.IsAmount) (le : x.bits ≤ y.bits) : x.IsAmount :=
  UInt32.le_trans le amount

/-- What is below a finite amount is finite. -/
lemma ne_infinity_of_le (amount : y.IsAmount) (finite : y ≠ infinity) (le : x.bits ≤ y.bits) :
    x ≠ infinity := by
  rintro rfl
  exact finite (eq_of_bits (le_antisymm (isAmount_iff.mp amount) (UInt32.le_iff_toNat_le.mp le)))

/-- A sum of amounts is an amount. -/
lemma isAmount_add (left : x.IsAmount) (right : y.IsAmount) : (x + y).IsAmount := by
  rw [isAmount_iff, bits_add left right]
  exact min_le_right _ _

/-- Greater amounts have no smaller sum. -/
theorem add_mono (left : x'.IsAmount) (right : y'.IsAmount) (le : x.bits ≤ x'.bits)
    (le' : y.bits ≤ y'.bits) : (x + y).bits ≤ (x' + y').bits := by
  rw [UInt32.le_iff_toNat_le, bits_add left right,
    bits_add (isAmount_of_le left le) (isAmount_of_le right le')]
  refine min_le_min_right _ (place_mono (add_nonneg (real_nonneg _) (real_nonneg _)) ?_)
  exact add_le_add (real_le_real_iff.mpr le) (real_le_real_iff.mpr le')

/-- A product of amounts that are not zero is an amount. -/
lemma isAmount_mul (left : x.IsAmount) (right : y.IsAmount) (ne : x ≠ zero) (ne' : y ≠ zero) :
    (x * y).IsAmount := by
  by_cases infinite : x = infinity
  · rw [infinite, infinity_mul right ne']
    decide
  · by_cases infinite' : y = infinity
    · rw [infinite', mul_infinity left ne]
      decide
    · rw [isAmount_iff, bits_mul left right infinite infinite']
      exact min_le_right _ _

/-- What is above a positive amount is positive. -/
lemma ne_zero_of_le (ne : x ≠ zero) (le : x.bits ≤ y.bits) : y ≠ zero := by
  rintro rfl
  exact ne (eq_of_bits (Nat.le_zero.mp (UInt32.le_iff_toNat_le.mp le)))

/-- Greater amounts have no smaller product. -/
theorem mul_mono (left : x'.IsAmount) (right : y'.IsAmount) (ne : x ≠ zero) (ne' : y ≠ zero)
    (le : x.bits ≤ x'.bits) (le' : y.bits ≤ y'.bits) : (x * y).bits ≤ (x' * y').bits := by
  have amount := isAmount_mul (isAmount_of_le left le) (isAmount_of_le right le') ne ne'
  by_cases infinite : x' = infinity
  · rw [infinite, infinity_mul right (ne_zero_of_le ne' le')]
    exact amount
  · by_cases infinite' : y' = infinity
    · rw [infinite', mul_infinity left (ne_zero_of_le ne le)]
      exact amount
    · have finite := ne_infinity_of_le left infinite le
      have finite' := ne_infinity_of_le right infinite' le'
      rw [UInt32.le_iff_toNat_le, bits_mul left right infinite infinite',
        bits_mul (isAmount_of_le left le) (isAmount_of_le right le') finite finite']
      refine min_le_min_right _ (place_mono (mul_nonneg (real_nonneg _) (real_nonneg _)) ?_)
      exact mul_le_mul (real_le_real_iff.mpr le) (real_le_real_iff.mpr le') (real_nonneg _)
        (real_nonneg _)

/-- A quotient of amounts is one, if the divisor is finite and not zero. -/
lemma isAmount_div (left : x.IsAmount) (right : y.IsAmount) (finite : y ≠ infinity)
    (ne : y ≠ zero) : (x / y).IsAmount := by
  by_cases infinite : x = infinity
  · rw [infinite, infinity_div right finite ne]
    decide
  · rw [isAmount_iff, bits_div left right infinite finite ne]
    exact min_le_right _ _

/-- A quotient by what is not more. -/
lemma one_le_div (left : x.IsAmount) (finite : y ≠ infinity) (ne : y ≠ zero)
    (le : y.bits ≤ x.bits) : one.bits ≤ (x / y).bits := by
  by_cases infinite : x = infinity
  · rw [infinite, infinity_div (isAmount_of_le left le) finite ne]
    decide
  · rw [UInt32.le_iff_toNat_le, bits_div left (isAmount_of_le left le) infinite finite ne]
    refine le_min ?_ (by decide)
    rw [← place_real, real_one]
    refine place_mono zero_le_one ?_
    rw [one_le_div₀ (real_pos ne)]
    exact real_le_real_iff.mpr le

/-- A greater dividend and a smaller divisor give no smaller quotient. -/
theorem div_mono (left : x'.IsAmount) (finite : x' ≠ infinity) (right : y.IsAmount)
    (finite' : y ≠ infinity) (ne : y' ≠ zero) (le : x.bits ≤ x'.bits) (ge : y'.bits ≤ y.bits) :
    (x / y).bits ≤ (x' / y').bits := by
  rw [UInt32.le_iff_toNat_le,
    bits_div left (isAmount_of_le right ge) finite (ne_infinity_of_le right finite' ge) ne,
    bits_div (isAmount_of_le left le) right (ne_infinity_of_le left finite le) finite'
      (ne_zero_of_le ne ge)]
  refine min_le_min_right _ (place_mono (div_nonneg (real_nonneg _) (real_nonneg _)) ?_)
  exact div_le_div₀ (real_nonneg _) (real_le_real_iff.mpr le) (real_pos ne)
    (real_le_real_iff.mpr ge)

protected lemma zero_add (amount : x.IsAmount) : zero + x = x := by
  refine eq_of_bits ?_
  rw [bits_add (by decide) amount, real_zero, zero_add, place_real,
    min_eq_left (isAmount_iff.mp amount)]

protected lemma add_zero (amount : x.IsAmount) : x + zero = x := by
  refine eq_of_bits ?_
  rw [bits_add amount (by decide), real_zero, add_zero, place_real,
    min_eq_left (isAmount_iff.mp amount)]

protected lemma one_mul (amount : x.IsAmount) : one * x = x := by
  by_cases infinite : x = infinity
  · rw [infinite]
    decide
  · refine eq_of_bits ?_
    rw [bits_mul (by decide) amount (by decide) infinite, real_one, one_mul, place_real,
      min_eq_left (isAmount_iff.mp amount)]

/-- A whole number is an amount. -/
lemma isAmount_ofNat (n : ℕ) : (ofNat n).IsAmount := by
  rw [isAmount_iff, bits_ofNat]
  exact min_le_right _ _

/-- Greater whole numbers are no smaller amounts. -/
lemma ofNat_mono {m n : ℕ} (le : m ≤ n) : (ofNat m).bits ≤ (ofNat n).bits := by
  rw [UInt32.le_iff_toNat_le, bits_ofNat, bits_ofNat]
  exact min_le_min_right _ (place_mono (Nat.cast_nonneg m) (by exact_mod_cast le))

end order

end Single
end PageSearch
