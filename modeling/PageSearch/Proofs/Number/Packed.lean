import PageSearch.Proofs.Number.Unpacked

/-!
# Numbers as bits

The bits of a number that is not negative, read as a whole number, are the place of the number in
its format. Infinity has the place after that of the greatest number (`limit`), and what is rounded
to a number beyond it becomes infinity.
-/

namespace PageSearch
namespace Rounding

open Float.Model Float.Model.UnpackedFloat

variable {S : Format} {s : Sign} {x : ℚ} {n : ℕ} {u : UnpackedFloat} {b : BitVec S.numBits}

/-- The bits of infinity. -/
def limit (S : Format) : ℕ :=
  (2 ^ S.exponentBits - 1) * 2 ^ fractionBits S

/-- The bits of a number are those of its sign, and then those of its place. -/
def word (S : Format) (s : Sign) (n : ℕ) : ℕ :=
  s.toBitVec.toNat * 2 ^ (S.exponentBits + fractionBits S) + n

/-- The exponent and the fraction are packed as one whole number. -/
lemma toNat_packComponents (e : BitVec S.exponentBits) (m : BitVec (fractionBits S)) :
    (packComponents S s e m).toNat = word S s (e.toNat * 2 ^ fractionBits S + m.toNat) := by
  have lt := m.isLt
  have lt' := e.isLt
  rw [packComponents, BitVec.toNat_append, BitVec.toNat_append, ← Nat.shiftLeft_add_eq_or_of_lt lt,
    ← Nat.shiftLeft_add_eq_or_of_lt lt', Nat.shiftLeft_eq, Nat.shiftLeft_eq, word, pow_add]
  ring

/-- Infinity is packed as the word of its place. -/
lemma toNat_packedInfinity (S : Format) (s : Sign) :
    (packedInfinity S s).toNat = word S s (limit S) := by
  rw [packedInfinity, toNat_packComponents, BitVec.neg_one_eq_allOnes, BitVec.toNat_allOnes]
  simp [limit]

/-- The least exponent is given by the bias and the bits of the fraction. -/
lemma minExponent_eq (S : Format) :
    S.minExponent = 1 - S.exponentBias - fractionBits S := by
  have pos : 1 ≤ 2 ^ (S.exponentBits - 1) := Nat.one_le_two_pow
  simp only [Format.minExponent, Format.mantissaBits, Format.exponentBias]
  push_cast [Nat.cast_sub pos]
  ring

/-- A number is packed at its place, or as infinity. -/
lemma toNat_pack (wide : 2 ≤ S.exponentBits) (rounds : Rounds S s x u) :
    (UnpackedFloat.pack S u).toNat = word S s (min (place S x) (limit S)) := by
  cases rounds with
  | zero at' =>
    rw [at', Nat.zero_min]
    simp [UnpackedFloat.pack, packedZero, toNat_packComponents]
  | finite pos fits at' =>
    rename_i m e
    obtain ⟨d, rfl⟩ := Int.le.dest fits.least
    have biased : (S.minExponent + d + S.exponentBias + fractionBits S).toNat = d + 1 := by
      rw [minExponent_eq]
      omega
    have place_eq : place S x = d * 2 ^ fractionBits S + m := by
      rw [at', placeOf, add_sub_cancel_left, Int.toNat_natCast]
    have lt := fits.lt
    rw [pow_succ] at lt
    have normal : d = 0 ∨ 2 ^ fractionBits S ≤ m := fits.normal.imp_left (by omega)
    have four : 2 ^ 2 ≤ 2 ^ S.exponentBits := Nat.pow_le_pow_right two_pos wide
    simp only [UnpackedFloat.pack, biased]
    split_ifs with beyond full
    · -- The exponent is beyond those of the format.
      have large := normal.resolve_left (by omega)
      have steps : (2 ^ S.exponentBits - 1) * 2 ^ fractionBits S ≤ (d + 1) * 2 ^ fractionBits S :=
        Nat.mul_le_mul_right _ (by omega)
      rw [toNat_packedInfinity, min_eq_right]
      rw [place_eq, limit]
      linarith
    · -- All digits are there, and the first one, which is always one, is left out.
      have large : 2 ^ fractionBits S ≤ m := by
        have digits : m.log2 = fractionBits S := by
          have full : m.log2 + 1 = 1 + fractionBits S := full
          omega
        exact digits ▸ Nat.log2_self_le pos.ne'
      have rest : m % 2 ^ fractionBits S = m - 2 ^ fractionBits S := by
        rw [Nat.mod_eq_sub_mod large, Nat.mod_eq_of_lt (by omega)]
      have steps : (d + 2) * 2 ^ fractionBits S ≤ (2 ^ S.exponentBits - 1) * 2 ^ fractionBits S :=
        Nat.mul_le_mul_right _ (by omega)
      rw [toNat_packComponents, BitVec.toNat_ofNat, BitVec.toNat_ofNat, rest,
        Nat.mod_eq_of_lt (by omega), place_eq, limit, min_eq_left (by linarith), add_one_mul,
        add_assoc, Nat.add_sub_of_le large]
    · -- Numbers of fewer digits have the least exponent, and are packed with all of them.
      have small : m < 2 ^ fractionBits S := by
        have digits := (Nat.log2_lt pos.ne').mpr fits.lt
        have full : m.log2 + 1 ≠ 1 + fractionBits S := full
        rw [← Nat.log2_lt pos.ne']
        omega
      have zero := normal.resolve_right (by omega)
      have room : 2 ^ fractionBits S ≤ (2 ^ S.exponentBits - 1) * 2 ^ fractionBits S :=
        Nat.le_mul_of_pos_left _ (by omega)
      rw [toNat_packComponents, BitVec.toNat_ofNat, BitVec.toNat_ofNat, place_eq, zero, limit,
        Nat.mod_eq_of_lt small, min_eq_left (by linarith)]
      simp

/-- A place up to that of infinity leaves the bit of the sign free. -/
lemma word_lt (le : n ≤ limit S) : n < 2 ^ (S.exponentBits + fractionBits S) := by
  have pos : 0 < 2 ^ fractionBits S := by positivity
  have one : 0 < 2 ^ S.exponentBits := by positivity
  rw [limit] at le
  rw [pow_add]
  refine le.trans_lt (Nat.mul_lt_mul_of_pos_right (by omega) pos)

/-- The fraction is what remains of the place. -/
lemma toNat_unpackMantissa (eq : b.toNat = word S s n) :
    (unpackMantissa b).toNat = n % 2 ^ fractionBits S := by
  rw [unpackMantissa_def, BitVec.extractLsb'_toNat, eq, word, pow_add, ← mul_assoc,
    Nat.shiftRight_zero, Nat.mul_add_mod_self_right]

/-- The exponent is how often the place has all fractions. -/
lemma toNat_unpackExponent (eq : b.toNat = word S s n) (le : n ≤ limit S) :
    (unpackExponent b).toNat = n / 2 ^ fractionBits S := by
  have pos : 0 < 2 ^ fractionBits S := by positivity
  have lt := word_lt le
  rw [add_comm, pow_add] at lt
  rw [unpackExponent_def, BitVec.extractLsb'_toNat, eq, word, pow_add, ← mul_assoc,
    Nat.shiftRight_eq_div_pow, add_comm, Nat.add_mul_div_right _ _ pos,
    Nat.add_mul_mod_self_right, Nat.mod_eq_of_lt (Nat.div_lt_of_lt_mul lt)]

/-- The sign is the first bit. -/
lemma ofBitVec_unpackSign (eq : b.toNat = word S s n) (le : n ≤ limit S) :
    Sign.ofBitVec (unpackSign b) = s := by
  have same : unpackSign b = s.toBitVec := by
    have pos : 0 < 2 ^ (S.exponentBits + fractionBits S) := by positivity
    refine BitVec.eq_of_toNat_eq ?_
    rw [unpackSign_def, BitVec.extractLsb'_toNat, eq, word, Nat.shiftRight_eq_div_pow, add_comm,
      add_comm S.mantissaBitsWithoutImplicit, Nat.add_mul_div_right _ _ pos,
      Nat.div_eq_of_lt (word_lt le), zero_add]
    exact Nat.mod_eq_of_lt s.toBitVec.isLt
  rw [same, Sign.ofBitVec_toBitVec]

/-- A number is unpacked from its place. -/
lemma holds_unpack (eq : b.toNat = word S s n) (lt : n < limit S) :
    Holds S s (value S n) (UnpackedFloat.unpack S b) := by
  have pos : 0 < 2 ^ fractionBits S := by positivity
  have mantissa := toNat_unpackMantissa eq
  have exponent := toNat_unpackExponent eq lt.le
  have finite : unpackExponent b ≠ -1#_ := by
    intro top
    rw [top, BitVec.neg_one_eq_allOnes, BitVec.toNat_allOnes] at exponent
    exact absurd ((Nat.div_lt_iff_lt_mul pos).mpr lt) (exponent ▸ lt_irrefl _)
  simp only [UnpackedFloat.unpack, ofBitVec_unpackSign eq lt.le, if_neg finite]
  -- The least exponent has no leading one, and every other exponent has.
  rcases steps : n / 2 ^ fractionBits S with _ | k
  · have small := (Nat.div_eq_zero_iff_lt pos).mp steps
    obtain ⟨fits, at'⟩ := fits_of_lt (S := S) small
    have low : unpackExponent b = 0#_ := BitVec.eq_of_toNat_eq (by simp [exponent, steps])
    rw [Nat.mod_eq_of_lt small] at mantissa
    rw [if_pos low]
    split_ifs with empty
    · rw [empty] at mantissa
      have zero : n = 0 := by simpa using mantissa.symm
      exact .zero (by rw [zero, value_zero])
    · have least : ((unpackExponent b).toNat : ℤ) -
          (S.exponentBias + S.mantissaBitsWithoutImplicit) + 1 = S.minExponent := by
        rw [exponent, steps, minExponent_eq]
        ring
      rw [least]
      refine .finite _ (mantissa ▸ fits) ?_
      rw [mantissa, ← fits.value, at']
  · obtain ⟨fits, at'⟩ := fits_of_div (S := S) steps
    have high : unpackExponent b ≠ 0#_ := by
      intro low
      rw [low, steps] at exponent
      simp at exponent
    have whole : (1#1 ++ unpackMantissa b).toNat =
        2 ^ fractionBits S + n % 2 ^ fractionBits S := by
      rw [BitVec.toNat_append, ← Nat.shiftLeft_add_eq_or_of_lt (unpackMantissa b).isLt, mantissa,
        Nat.shiftLeft_eq]
      simp
    have above : ((unpackExponent b).toNat : ℤ) -
        (S.exponentBias + S.mantissaBitsWithoutImplicit) = S.minExponent + k := by
      rw [exponent, steps, minExponent_eq]
      push_cast
      ring
    rw [if_neg high]
    rw [above]
    refine .finite _ (whole ▸ fits) ?_
    rw [whole, ← fits.value, at']

/-- The place of infinity is unpacked as infinity. -/
lemma unpack_limit (eq : b.toNat = word S s (limit S)) :
    UnpackedFloat.unpack S b = .infinity s := by
  have pos : 0 < 2 ^ fractionBits S := by positivity
  have mantissa := toNat_unpackMantissa eq
  have exponent := toNat_unpackExponent eq le_rfl
  rw [limit, Nat.mul_mod_left] at mantissa
  rw [limit, Nat.mul_div_cancel _ pos] at exponent
  have top : unpackExponent b = -1#_ := by
    refine BitVec.eq_of_toNat_eq ?_
    rw [exponent, BitVec.neg_one_eq_allOnes, BitVec.toNat_allOnes]
  have nothing : unpackMantissa b = 0#_ := BitVec.eq_of_toNat_eq (by simpa using mantissa)
  simp only [UnpackedFloat.unpack, ofBitVec_unpackSign eq le_rfl, if_pos top, if_pos nothing]

/-- What is unpacked is packed into the same bits. -/
lemma pack_unpack_of_le (wide : 2 ≤ S.exponentBits) (eq : b.toNat = word S s n) (le : n ≤ limit S) :
    UnpackedFloat.pack S (UnpackedFloat.unpack S b) = b := by
  refine BitVec.eq_of_toNat_eq ?_
  rcases le.lt_or_eq with lt | rfl
  · rw [toNat_pack wide (holds_unpack eq lt).rounds, place_value, min_eq_left le, eq]
  · rw [unpack_limit eq, UnpackedFloat.pack, toNat_packedInfinity, eq]

end Rounding
end PageSearch
