import PageSearch.Config.Basic
import PageSearch.Proofs.Index.Ranking
import PageSearch.Proofs.Number.Logarithm

/-!
# When weights are positive

With positive boosts no weight and no score is negative or undefined. A weight is zero, though,
where the term's share of the record is so small that one and the share come to one in single
precision; everywhere else it is positive. The score of a document is positive if it has one of the
terms of the query with a positive weight.

No share is so small if terms count for at least one each and no record has millions of them.
-/

namespace PageSearch

namespace Single

/-- The greatest number that one swallows in a sum, 2 to the -24th. -/
def swallowed : Single := ⟨0x33800000⟩

section positive

variable {x y s : Single}

/-- An amount above one that is not zero is positive. -/
lemma isPositive_of_le (amount : x.IsAmount) (ne : y ≠ zero) (le : y.bits ≤ x.bits) :
    x.isPositive = true :=
  isPositive_iff.mpr ⟨amount, ne_zero_of_le ne le⟩

/-- Numbers whose bits are in both orders are equal. -/
lemma eq_of_bits_le (le : x.bits ≤ y.bits) (ge : y.bits ≤ x.bits) : x = y :=
  eq_of_bits (le_antisymm (UInt32.le_iff_toNat_le.mp le) (UInt32.le_iff_toNat_le.mp ge))

/-- Zero has the least bits. -/
lemma zero_bits_le (x : Single) : zero.bits ≤ x.bits :=
  UInt32.le_iff_toNat_le.mpr (Nat.zero_le x.bits.toNat)

/-- A sum is at least its first part. -/
lemma le_add_right (left : x.IsAmount) (right : y.IsAmount) : x.bits ≤ (x + y).bits := by
  nth_rewrite 1 [← Single.add_zero left]
  exact add_mono left right (UInt32.le_refl _) (zero_bits_le y)

/-- A sum is at least its second part. -/
lemma le_add_left (left : x.IsAmount) (right : y.IsAmount) : y.bits ≤ (x + y).bits := by
  nth_rewrite 1 [← Single.zero_add right]
  exact add_mono left right (zero_bits_le x) (UInt32.le_refl _)

/-- The logarithm of one and a share is zero or not, and is an amount. -/
lemma log_one_add (amount : s.IsAmount) :
    s.bits ≤ swallowed.bits ∧ (one + s).log = zero ∨
      swallowed.bits < s.bits ∧ (one + s).log.IsAmount ∧ swallowed.bits ≤ (one + s).log.bits := by
  have sum := isAmount_add (by decide : one.IsAmount) amount
  by_cases small : s.bits ≤ swallowed.bits
  · have le : (one + s).bits ≤ (one + swallowed).bits :=
      add_mono (by decide) (by decide) (UInt32.le_refl _) small
    have same : one + swallowed = one := by decide
    rw [same] at le
    -- The sum is between one and one, so one swallows the share.
    have one_eq := eq_of_bits_le le (le_add_right (by decide) amount)
    exact .inl ⟨small, by rw [one_eq, log_one]⟩
  · -- The next greater share is enough for a sum above one.
    have large : (⟨0x33800001⟩ : Single).bits ≤ s.bits := by
      rw [UInt32.le_iff_toNat_le] at small ⊢
      exact not_le.mp small
    have le : (one + ⟨0x33800001⟩).bits ≤ (one + s).bits :=
      add_mono (by decide) amount (UInt32.le_refl _) large
    have above : one.bits < (one + s).bits := by
      rw [UInt32.lt_iff_toNat_lt]
      exact (by decide : one.bits.toNat < (one + ⟨0x33800001⟩).bits.toNat).trans_le
        (UInt32.le_iff_toNat_le.mp le)
    refine .inr ⟨UInt32.not_le.mp small, ?_⟩
    -- The bounds on the logarithm are for finite numbers.
    by_cases infinite : one + s = infinity
    · rw [infinite, log_infinity]
      decide
    · have finite : (one + s).bits < infinity.bits := by
        refine UInt32.lt_of_le_of_ne sum fun eq => infinite ?_
        exact eq_of_bits (congrArg UInt32.toNat eq)
      obtain ⟨low, high⟩ := log_bounds above finite
      exact ⟨UInt32.le_trans high (by decide), low⟩

/-- Amounts rank as their bits do. -/
lemma rank_of_isAmount (amount : x.IsAmount) : x.rank = x.bits.toNat := by
  have sign : x.bits < 0x80000000 := by
    rw [UInt32.lt_iff_toNat_lt]
    exact (UInt32.le_iff_toNat_le.mp amount).trans_lt (by decide)
  rw [rank, if_pos sign]

/-- The larger of a half and what is at most `y`, or no number. -/
lemma max_half_bounds (half_le : half.bits ≤ y.bits)
    (bound : x.IsAmount ∧ x.bits ≤ y.bits ∨ x.isNaN = true) :
    half.bits ≤ (x.max half).bits ∧ (x.max half).bits ≤ y.bits := by
  unfold Single.max
  -- An undefined quotient counts as a half.
  rcases bound with ⟨amount, le⟩ | undefined
  · have number : half.isNaN = false := by decide
    rw [amount.not_isNaN, number, rank_of_isAmount amount, rank_of_isAmount (by decide)]
    simp only [Bool.false_eq_true, if_false]
    split_ifs with lt
    · exact ⟨UInt32.le_refl _, half_le⟩
    · refine ⟨?_, le⟩
      rw [UInt32.le_iff_toNat_le]
      omega
  · rw [if_pos undefined]
    exact ⟨UInt32.le_refl _, half_le⟩

end positive

end Single

namespace Index

open Single

section frequency

variable {b boost : Single} {hash : UInt64} {m : TermMap Single} {terms : List (List Char)}

/-- Every number in a map is an amount, and at least `b`. -/
def AtLeast (b : Single) (m : TermMap Single) : Prop :=
  ∀ hash f, m.get? hash = some f → f.IsAmount ∧ b.bits ≤ f.bits

/-- Adding to one frequency keeps all of them above the bound. -/
lemma AtLeast.update (atLeast : AtLeast b m) (amount : boost.IsAmount)
    (le : b.bits ≤ boost.bits) (ne : b ≠ zero) {n : Nat} (pos : 1 ≤ n) :
    AtLeast b (m.update hash fun old => old.getD zero + ofNat n * boost) := by
  have ne' := ne_zero_of_le ne le
  have one_le : one.bits ≤ (ofNat n).bits :=
    UInt32.le_trans (by decide : one.bits ≤ (ofNat 1).bits) (ofNat_mono pos)
  have counted : (ofNat n * boost).IsAmount :=
    isAmount_mul (isAmount_ofNat n) amount (ne_zero_of_le (by decide) one_le) ne'
  have le' : b.bits ≤ (ofNat n * boost).bits := by
    have grown := mul_mono (isAmount_ofNat n) amount (by decide) ne' one_le (UInt32.le_refl _)
    rw [Single.one_mul amount] at grown
    exact UInt32.le_trans le grown
  intro hash' f found
  rw [TermMap.get?_update] at found
  split_ifs at found with own
  · cases found
    -- What stood there, or zero, is an amount, so the sum is at least what is added.
    have old : ((m.get? hash).getD zero).IsAmount := by
      cases eq : m.get? hash with
      | none => decide
      | some f => exact (atLeast hash f eq).1
    exact ⟨isAmount_add old counted, UInt32.le_trans le' (le_add_left old counted)⟩
  · exact atLeast hash' f found

/-- So does adding a whole field. -/
lemma AtLeast.addField (atLeast : AtLeast b m) (amount : boost.IsAmount) (le : b.bits ≤ boost.bits)
    (ne : b ≠ zero) : AtLeast b (addField boost terms m) := by
  have counts : ∀ e ∈ countTerms terms, 1 ≤ e.2 := by
    intro e mem
    obtain ⟨t, among, rfl⟩ := List.mem_map.mp mem
    exact List.count_pos_iff.mpr (List.mem_eraseDups.mp among)
  rw [addField_eq_foldl]
  generalize countTerms terms = l at counts
  -- By the counted terms that are still to be added, each of which occurs.
  induction l generalizing m with
  | nil => exact atLeast
  | cons e rest ih =>
    refine ih (atLeast.update amount le ne (counts e List.mem_cons_self)) ?_
    exact fun e mem => counts e (List.mem_cons_of_mem _ mem)

/-- With positive boosts frequencies are positive, and no smaller than the smaller boost. -/
lemma atLeast_tally {boosts : Boosts} (r : Record) (title : boosts.title.IsAmount)
    (content : boosts.content.IsAmount) (ne : b ≠ zero) (le : b.bits ≤ boosts.title.bits)
    (le' : b.bits ≤ boosts.content.bits) : AtLeast b (Tally.of boosts r).frequencies := by
  refine AtLeast.addField (AtLeast.addField ?_ title le ne) content le' ne
  intro hash f found
  cases found

end frequency

section norm

variable {lengths : List Nat} {n : Nat}

/-- Nothing but zero is below the least positive number. -/
lemma least_le {x : Single} (ne : x ≠ zero) : (⟨1⟩ : Single).bits ≤ x.bits := by
  rw [UInt32.le_iff_toNat_le]
  exact Nat.pos_of_ne_zero fun eq => ne (eq_of_bits eq)

/-- The greatest number below infinity. -/
def greatest : Single := ⟨0x7f7fffff⟩

/-- No finite amount is above the greatest number. -/
lemma le_greatest {x : Single} (amount : x.IsAmount) (finite : x ≠ infinity) :
    x.bits ≤ greatest.bits := by
  have lt : x.bits.toNat < infinity.bits.toNat :=
    lt_of_le_of_ne (UInt32.le_iff_toNat_le.mp amount) fun eq => finite (eq_of_bits eq)
  exact UInt32.le_iff_toNat_le.mpr (Nat.le_of_lt_succ lt)

/-- The average length is at least one, and finite only if every length is. -/
lemma averageLength_of_mem (mem : n ∈ lengths) (pos : 0 < n)
    (le : lengths.length ≤ mostDocuments) :
    (averageLength lengths).IsAmount ∧ one.bits ≤ (averageLength lengths).bits ∧
      (averageLength lengths ≠ infinity → (ofNat n).bits ≤ greatest.bits) := by
  have counted : n ∈ lengths.filter (0 < ·) := List.mem_filter.mpr ⟨mem, by simpa using pos⟩
  have ones : ∀ k ∈ lengths.filter (0 < ·), 1 ≤ k := by
    intro k mem
    exact Nat.succ_le_of_lt (by simpa using (List.mem_filter.mp mem).2)
  have fewer : (lengths.filter (0 < ·)).length ≤ mostDocuments :=
    (List.length_filter_le _ _).trans le
  unfold averageLength
  -- Records of length zero do not count for the average, but this one does.
  generalize lengths.filter (0 < ·) = counted' at counted ones fewer
  have nonempty : counted'.isEmpty = false := by
    rw [List.isEmpty_eq_false_iff]
    exact List.ne_nil_of_mem counted
  have enough : counted'.length ≤ counted'.sum := List.length_le_sum_of_one_le _ ones
  have least : 1 ≤ counted'.length := List.length_pos_of_mem counted
  have among : n ≤ counted'.sum := List.le_sum_of_mem counted
  simp only [nonempty, Bool.false_eq_true, if_false, ← List.sum_eq_foldl]
  have few : (ofNat counted'.length).bits ≤ (ofNat mostDocuments).bits := ofNat_mono fewer
  have finite : ofNat counted'.length ≠ infinity :=
    ne_infinity_of_le (by decide) (by decide : ofNat mostDocuments ≠ infinity) few
  have ne : ofNat counted'.length ≠ zero :=
    ne_zero_of_le (by decide : ofNat 1 ≠ zero) (ofNat_mono least)
  refine ⟨isAmount_div (isAmount_ofNat _) (isAmount_ofNat _) finite ne,
    one_le_div (isAmount_ofNat _) finite ne (ofNat_mono enough), fun bounded => ?_⟩
  refine UInt32.le_trans (ofNat_mono among) (le_greatest (isAmount_ofNat _) fun infinite => ?_)
  -- An infinite sum would make the average infinite.
  rw [infinite, infinity_div (isAmount_ofNat _) finite ne] at bounded
  exact bounded rfl

/-- The norm of a record. -/
def norm (length : Nat) (average : Single) : Single :=
  (Single.ofNat length / average).max half

/-- A bound on the length of a record is one on its norm, as the average length is at least one. -/
lemma norm_bounds {average y : Single} (amount : average.IsAmount)
    (one_le : one.bits ≤ average.bits) (bounded : y.IsAmount) (finite : y ≠ infinity)
    (half_le : half.bits ≤ y.bits) (whole : y / one = y)
    (le : average ≠ infinity → (ofNat n).bits ≤ y.bits) :
    half.bits ≤ (norm n average).bits ∧ (norm n average).bits ≤ y.bits := by
  refine max_half_bounds half_le ?_
  by_cases infinite : average = infinity
  · -- The quotient is zero or undefined then, and the norm is a half.
    rw [infinite]
    by_cases infinite' : ofNat n = infinity
    · rw [infinite']
      exact .inr (by decide)
    · rw [div_infinity (isAmount_ofNat n) infinite']
      exact .inl ⟨by decide, zero_bits_le y⟩
  · have least :=
      div_mono bounded finite amount infinite (by decide : one ≠ zero) (le infinite) one_le
    rw [whole] at least
    exact .inl ⟨isAmount_of_le bounded least, least⟩

end norm

section weight

variable {frequency average : Single} {length records holders : Nat}

/-- The share of a term's frequency in a record. -/
def share (frequency : Single) (length : Nat) (average : Single) : Single :=
  frequency / norm length average

/-- The logarithm that is greater for terms of fewer records is positive and finite. -/
lemma log_rarity_bounds (pos : 1 ≤ holders) (le : holders ≤ records)
    (numbered : records ≤ mostDocuments) :
    swallowed.bits ≤ (one + ofNat records / ofNat holders).log.bits ∧
      (one + ofNat records / ofNat holders).log.bits ≤ greatest.bits := by
  have most : (ofNat records).bits ≤ (ofNat mostDocuments).bits := ofNat_mono numbered
  have most_finite : ofNat mostDocuments ≠ infinity := by decide
  have finite : ofNat holders ≠ infinity :=
    ne_infinity_of_le (isAmount_ofNat _) most_finite (ofNat_mono (le.trans numbered))
  have one_le : one.bits ≤ (ofNat holders).bits :=
    UInt32.le_trans (by decide : one.bits ≤ (ofNat 1).bits) (ofNat_mono pos)
  have low := one_le_div (isAmount_ofNat records) finite (ne_zero_of_le (by decide) one_le)
    (ofNat_mono le)
  -- The ratio is at most the number of all documents there can be.
  have high := div_mono (isAmount_ofNat mostDocuments) most_finite (isAmount_ofNat holders) finite
    (by decide : one ≠ zero) most one_le
  have amount := isAmount_of_le (by decide) high
  have above : one.bits < (one + ofNat records / ofNat holders).bits :=
    UInt32.lt_of_lt_of_le (by decide : one.bits < (one + one).bits)
      (add_mono (by decide) amount (UInt32.le_refl _) low)
  have below : (one + ofNat records / ofNat holders).bits < infinity.bits :=
    UInt32.lt_of_le_of_lt (add_mono (by decide) (by decide) (UInt32.le_refl _) high)
      (by decide : (one + ofNat mostDocuments / one).bits < infinity.bits)
  obtain ⟨ge, le⟩ := log_bounds above below
  exact ⟨ge, UInt32.le_trans le (by decide)⟩

/-- A weight is positive, or it is zero because one swallows the share. -/
lemma weight_cases (amount : frequency.IsAmount)
    (bounds : half.bits ≤ (norm length average).bits ∧
      (norm length average).bits ≤ greatest.bits)
    (pos : 1 ≤ holders) (le : holders ≤ records) (numbered : records ≤ mostDocuments) :
    (weight frequency length average records holders).isPositive = true ∧
        swallowed.bits < (share frequency length average).bits ∨
      weight frequency length average records holders = zero ∧
        (share frequency length average).bits ≤ swallowed.bits := by
  have norm_amount := isAmount_of_le (by decide : greatest.IsAmount) bounds.2
  have shared : (share frequency length average).IsAmount :=
    isAmount_div amount norm_amount (ne_infinity_of_le (by decide) (by decide) bounds.2)
      (ne_zero_of_le (by decide) bounds.1)
  obtain ⟨low, high⟩ := log_rarity_bounds pos le numbered
  have rarity := isAmount_of_le (by decide : greatest.IsAmount) high
  have product : weight frequency length average records holders =
      (one + share frequency length average).log * (one + ofNat records / ofNat holders).log := rfl
  rw [product]
  -- The other factor is positive, so the weight is zero exactly with the logarithm of the share.
  rcases log_one_add shared with ⟨small, log_eq⟩ | ⟨large, log_amount, log_ge⟩
  · rw [log_eq]
    exact .inr ⟨Single.zero_mul rarity (ne_infinity_of_le (by decide) (by decide) high), small⟩
  · have grown := mul_mono log_amount rarity (by decide : swallowed ≠ zero)
      (by decide : swallowed ≠ zero) log_ge low
    refine .inl ⟨isPositive_of_le (isAmount_mul log_amount rarity ?_ ?_)
      (by decide : swallowed * swallowed ≠ zero) grown, large⟩
    · exact ne_zero_of_le (by decide : swallowed ≠ zero) log_ge
    · exact ne_zero_of_le (by decide : swallowed ≠ zero) low

/-- One does not swallow the share of a term that counts for one in a record of not too many. -/
lemma swallowed_lt_share (amount : frequency.IsAmount) (one_le : one.bits ≤ frequency.bits)
    (ge : half.bits ≤ (norm length average).bits)
    (le : (norm length average).bits ≤ (ofNat (2 ^ 23)).bits) :
    swallowed.bits < (share frequency length average).bits := by
  have few : (ofNat (2 ^ 23)).IsAmount := by decide
  have finite : ofNat (2 ^ 23) ≠ infinity := by decide
  have ne := ne_zero_of_le (by decide : half ≠ zero) ge
  unfold share
  by_cases infinite : frequency = infinity
  · rw [infinite, infinity_div (isAmount_of_le few le) (ne_infinity_of_le few finite le) ne]
    decide
  · exact UInt32.lt_of_lt_of_le (by decide : swallowed.bits < (one / ofNat (2 ^ 23)).bits)
      (div_mono amount infinite few finite ne one_le le)

end weight

section total

variable {x : Single} {weights : List Single}

/-- Amounts add up to an amount that is at least each of them. -/
lemma foldl_add (amount : x.IsAmount) (amounts : ∀ w ∈ weights, w.IsAmount) :
    (weights.foldl (· + ·) x).IsAmount ∧ x.bits ≤ (weights.foldl (· + ·) x).bits ∧
      ∀ w ∈ weights, w.bits ≤ (weights.foldl (· + ·) x).bits := by
  induction weights generalizing x with
  | nil => exact ⟨amount, UInt32.le_refl _, by simp⟩
  | cons w rest ih =>
    have first := amounts w List.mem_cons_self
    obtain ⟨sum, le, others⟩ := ih (isAmount_add amount first)
      fun w mem => amounts w (List.mem_cons_of_mem _ mem)
    refine ⟨sum, UInt32.le_trans (le_add_right amount first) le, ?_⟩
    intro w' mem
    cases mem with
    | head => exact UInt32.le_trans (le_add_left amount first) le
    | tail _ mem => exact others w' mem

/-- Nothing but zeros adds up to zero. -/
lemma total_of_zeros (zeros : ∀ w ∈ weights, w = zero) : total weights = zero := by
  have eq : weights = List.replicate weights.length zero := List.eq_replicate_iff.mpr ⟨rfl, zeros⟩
  rw [total, eq]
  -- Only the length of the list is left.
  generalize weights.length = n
  induction n with
  | zero => rfl
  | succ n ih =>
    have same : zero + zero = zero := by decide
    rw [List.replicate_succ, List.foldl_cons, same, ih]

/-- A sum of amounts is positive if one of them is, and zero otherwise. -/
lemma total_cases (amounts : ∀ w ∈ weights, w.isPositive = true ∨ w = zero) :
    (total weights).isPositive = true ∧ (∃ w ∈ weights, w.isPositive = true) ∨
      total weights = zero ∧ ∀ w ∈ weights, w = zero := by
  by_cases positive : ∃ w ∈ weights, w.isPositive = true
  · obtain ⟨w, mem, pos⟩ := positive
    have each : ∀ w ∈ weights, w.IsAmount := by
      intro w mem
      rcases amounts w mem with pos | rfl
      · exact (isPositive_iff.mp pos).1
      · decide
    obtain ⟨sum, -, le⟩ := foldl_add (by decide : zero.IsAmount) each
    exact .inl ⟨isPositive_of_le sum (isPositive_iff.mp pos).2 (le w mem), w, mem, pos⟩
  · have zeros : ∀ w ∈ weights, w = zero := by
      intro w mem
      exact (amounts w mem).resolve_left fun pos => positive ⟨w, mem, pos⟩
    exact .inr ⟨total_of_zeros zeros, zeros⟩

end total

/-- The share of a frequency in one record among others. -/
def shareAmong (boosts : Boosts) (records : List Record) (r : Record) (frequency : Single) :
    Single :=
  share frequency (Tally.of boosts r).length
    (averageLength (records.map fun r => (Tally.of boosts r).length))

/-- What is positive in an index of some records, and what is zero. -/
structure Weighed (boosts : Boosts) (records : List Record) (index : Index) : Prop where
  /-- A weight is positive, or zero because one swallows the share of the frequency. -/
  weights : ∀ e ∈ index.postings.entries, ∀ p ∈ e.2, ∃ r frequency, records[p.doc]? = some r ∧
    (Tally.of boosts r).frequencies.get? e.1 = some frequency ∧ frequency.isPositive = true ∧
    (p.weight.isPositive = true ∧
        swallowed.bits < (shareAmong boosts records r frequency).bits ∨
      p.weight = zero ∧ (shareAmong boosts records r frequency).bits ≤ swallowed.bits)
  /-- A score is positive if the document has a term of the query with a positive weight, and zero
  otherwise. -/
  scores : ∀ (order : TermOrder) (query : List Char) (doc : Nat) (score : Single),
    (doc, score) ∈ index.rankingIn order query →
      score.isPositive = true ∧
          (∃ t w, Wanted query t ∧ index.weight? doc t = some w ∧ w.isPositive = true) ∨
        score = zero ∧ (∃ t w, Wanted query t ∧ index.weight? doc t = some w) ∧
          ∀ t w, Wanted query t → index.weight? doc t = some w → w = zero
  /-- The scores of hits are those of the documents that they refer to. -/
  hits : ∀ (order : TermOrder) (query : String) (hits : List Hit),
    index.searchIn order query = .ok hits → ∀ hit ∈ hits, ∃ doc,
      index.refs[doc]? = some hit.reference ∧ (doc, hit.score) ∈ index.rankingIn order query.toList
  /-- If terms count for at least one each and no record has too many, all weights are positive, -/
  allWeights : one.bits ≤ boosts.title.bits → one.bits ≤ boosts.content.bits →
    (∀ r ∈ records, (Tally.of boosts r).length ≤ 2 ^ 23) →
      ∀ e ∈ index.postings.entries, ∀ p ∈ e.2, p.weight.isPositive = true
  /-- and all scores with them. -/
  allScores : one.bits ≤ boosts.title.bits → one.bits ≤ boosts.content.bits →
    (∀ r ∈ records, (Tally.of boosts r).length ≤ 2 ^ 23) →
      ∀ (order : TermOrder) (query : String) (hits : List Hit),
        index.searchIn order query = .ok hits → ∀ hit ∈ hits, hit.score.isPositive = true

section build

variable {boosts : Boosts} {records : List Record}

/-- The boosts of a configuration without fault are positive amounts. -/
lemma isAmount_of_fault? {config : Config} (accepted : config.fault? = none) :
    (config.boosts.title.IsAmount ∧ config.boosts.title ≠ zero) ∧
      config.boosts.content.IsAmount ∧ config.boosts.content ≠ zero := by
  unfold Config.fault? at accepted
  split_ifs at accepted with limit minLength positive
  rw [Bool.and_eq_true] at positive
  exact ⟨isPositive_iff.mp positive.1, isPositive_iff.mp positive.2⟩

/-- What a posting of a built index is about. -/
lemma exists_of_posted (le : records.length ≤ mostDocuments) {e : UInt64 × List Posting}
    (mem : e ∈ (build boosts records).postings.entries) {p : Posting} (posted : p ∈ e.2) :
    ∃ r frequency, records[p.doc]? = some r ∧ 0 < (Tally.of boosts r).length ∧
      (Tally.of boosts r).frequencies.get? e.1 = some frequency ∧
      ∃ holders, 1 ≤ holders ∧ holders ≤ records.length ∧
        p.weight = weight frequency (Tally.of boosts r).length
          (averageLength (records.map fun r => (Tally.of boosts r).length)) records.length
          holders := by
  rw [(eq_postingsUnder_of_mem le mem).1] at posted
  obtain ⟨r, at', weight⟩ := mem_postingsUnder.mp posted
  obtain ⟨frequency, found, eq⟩ := Option.map_eq_some_iff.mp weight
  have holds : ((Tally.of boosts r).frequencies.get? e.1).isSome = true := by rw [found]; rfl
  have among : r ∈ records := List.mem_of_getElem? at'
  obtain ⟨t, has, -⟩ := (isSome_get?_tally boosts).mp holds
  -- A record with a term is not empty, so that it counts for the average.
  have long : 0 < (Tally.of boosts r).length := by
    show 0 < (titleTerms r).length + (contentTerms r).length
    rcases has with title | content
    · have := List.length_pos_of_mem title
      omega
    · have := List.length_pos_of_mem content
      omega
  refine ⟨r, frequency, at', long, found, holderCount boosts records e.1, ?_, ?_, eq.symm⟩
  · exact List.countP_pos_iff.mpr ⟨r, among, holds⟩
  · exact List.countP_le_length

/-- The weight of a posting, if frequencies are no smaller than `b`. -/
lemma weight_of_posted {b : Single} (ne : b ≠ zero) (title : boosts.title.IsAmount)
    (content : boosts.content.IsAmount) (least : b.bits ≤ boosts.title.bits)
    (least' : b.bits ≤ boosts.content.bits) (le : records.length ≤ mostDocuments)
    {e : UInt64 × List Posting} (mem : e ∈ (build boosts records).postings.entries) {p : Posting}
    (posted : p ∈ e.2) :
    ∃ r frequency, records[p.doc]? = some r ∧ 0 < (Tally.of boosts r).length ∧
      (Tally.of boosts r).frequencies.get? e.1 = some frequency ∧ frequency.IsAmount ∧
      b.bits ≤ frequency.bits ∧
      (p.weight.isPositive = true ∧
          swallowed.bits < (shareAmong boosts records r frequency).bits ∨
        p.weight = zero ∧ (shareAmong boosts records r frequency).bits ≤ swallowed.bits) := by
  obtain ⟨r, frequency, at', long, found, holders, pos, few, eq⟩ := exists_of_posted le mem posted
  obtain ⟨amount, ge⟩ := atLeast_tally r title content ne least least' e.1 frequency found
  have among : (Tally.of boosts r).length ∈ records.map fun r => (Tally.of boosts r).length :=
    List.mem_map_of_mem (List.mem_of_getElem? at')
  obtain ⟨average, one_le, bounded⟩ :=
    averageLength_of_mem among long (by rwa [List.length_map])
  have bounds := norm_bounds average one_le (by decide : greatest.IsAmount) (by decide)
    (by decide) (by decide) bounded
  refine ⟨r, frequency, at', long, found, amount, ge, ?_⟩
  rw [eq]
  exact weight_cases amount bounds pos few le

/-- With terms that count for one and records that are not too long, a weight is positive. -/
lemma isPositive_of_posted (title : boosts.title.IsAmount) (content : boosts.content.IsAmount)
    (least : one.bits ≤ boosts.title.bits) (least' : one.bits ≤ boosts.content.bits)
    (short : ∀ r ∈ records, (Tally.of boosts r).length ≤ 2 ^ 23)
    (le : records.length ≤ mostDocuments) {e : UInt64 × List Posting}
    (mem : e ∈ (build boosts records).postings.entries) {p : Posting} (posted : p ∈ e.2) :
    p.weight.isPositive = true := by
  obtain ⟨r, frequency, at', long, -, amount, ge, cases⟩ :=
    weight_of_posted (by decide : one ≠ zero) title content least least' le mem posted
  have among := List.mem_of_getElem? at'
  have length : (Tally.of boosts r).length ∈ records.map fun r => (Tally.of boosts r).length :=
    List.mem_map_of_mem among
  obtain ⟨average, one_le, -⟩ := averageLength_of_mem length long (by rwa [List.length_map])
  obtain ⟨low, high⟩ := norm_bounds average one_le (by decide : (ofNat (2 ^ 23)).IsAmount)
    (by decide) (by decide) (by decide +kernel) fun _ => ofNat_mono (short r among)
  have large : swallowed.bits < (shareAmong boosts records r frequency).bits :=
    swallowed_lt_share amount ge low high
  rcases cases with ⟨positive, -⟩ | ⟨-, small⟩
  · exact positive
  · exact absurd small (UInt32.not_le.mpr large)

/-- The weight of a term in a document is that of a posting. -/
lemma posted_of_weight? {doc : Nat} {t : List Char} {w : Single}
    (found : (build boosts records).weight? doc t = some w) :
    ∃ e ∈ (build boosts records).postings.entries, ⟨doc, w⟩ ∈ e.2 := by
  rw [weight?_eq_some_iff (ascending_build boosts records)] at found
  cases entry : (build boosts records).postings.get? (termHash t) with
  | none =>
    rw [entry] at found
    cases found
  | some postings =>
    rw [entry] at found
    exact ⟨(_, postings), TermMap.mem_entries_iff.mpr entry, found⟩

/-- The score of a ranked document, if every weight is positive or zero. -/
lemma score_cases (amounts : ∀ e ∈ (build boosts records).postings.entries, ∀ p ∈ e.2,
      p.weight.isPositive = true ∨ p.weight = zero) {order : TermOrder} {query : List Char}
    {doc : Nat} {score : Single}
    (ranked : (doc, score) ∈ (build boosts records).rankingIn order query) :
    score.isPositive = true ∧ (∃ t w, Wanted query t ∧
        (build boosts records).weight? doc t = some w ∧ w.isPositive = true) ∨
      score = zero ∧ (∃ t w, Wanted query t ∧ (build boosts records).weight? doc t = some w) ∧
        ∀ t w, Wanted query t → (build boosts records).weight? doc t = some w → w = zero := by
  have ascending : (build boosts records).Ascending := ascending_build boosts records
  rw [rankingIn, mem_rankingBy_iff ascending, score?_eq_some_iff] at ranked
  have eq : score = total ((termsIn order query).filterMap
    ((build boosts records).weight? doc)) := ranked.2
  have weights (w : Single) (mem : w ∈ (termsIn order query).filterMap
      ((build boosts records).weight? doc)) : w.isPositive = true ∨ w = zero := by
    obtain ⟨t, -, found⟩ := List.mem_filterMap.mp mem
    obtain ⟨e, mem, posted⟩ := posted_of_weight? found
    exact amounts e mem _ posted
  rw [eq]
  rcases total_cases weights with ⟨positive, w, mem, pos⟩ | ⟨none, zeros⟩
  · obtain ⟨t, wanted, found⟩ := List.mem_filterMap.mp mem
    exact .inl ⟨positive, t, w, mem_termsIn.mp wanted, found, pos⟩
  · -- A ranked document has one of the terms, though its weight be zero.
    obtain ⟨w, mem⟩ := List.exists_mem_of_ne_nil _ ranked.1
    obtain ⟨t, wanted, found⟩ := List.mem_filterMap.mp mem
    refine .inr ⟨none, ⟨t, w, mem_termsIn.mp wanted, found⟩, fun t w wanted found => ?_⟩
    exact zeros w (List.mem_filterMap.mpr ⟨t, mem_termsIn.mpr wanted, found⟩)

/-- A hit is a ranked document, under its reference and with its score. -/
lemma exists_of_hit {index : Index} {order : TermOrder} {query : String} {hits : List Hit}
    (ok : index.searchIn order query = .ok hits) {hit : Hit} (mem : hit ∈ hits) :
    ∃ doc, index.refs[doc]? = some hit.reference ∧
      (doc, hit.score) ∈ index.rankingIn order query.toList := by
  obtain ⟨⟨doc, score⟩, ranked, reference, eq⟩ :=
    exists_mem_of_forall₂ (hitsOf_eq_ok_iff.mp ok).flip mem
  exact ⟨doc, reference, eq ▸ ranked⟩

end build

/-- An index that is built with accepted boosts has no negative or undefined weights and scores, and
those that are zero are known. -/
theorem weighed_build {config : Config} (accepted : config.fault? = none) {records : List Record}
    (le : records.length ≤ mostDocuments) :
    Weighed config.boosts records (build config.boosts records) := by
  obtain ⟨⟨title, title_ne⟩, content, content_ne⟩ := isAmount_of_fault? accepted
  have weights {e : UInt64 × List Posting}
      (mem : e ∈ (build config.boosts records).postings.entries) {p : Posting} (posted : p ∈ e.2) :=
    weight_of_posted (by decide : (⟨1⟩ : Single) ≠ zero) title content (least_le title_ne)
      (least_le content_ne) le mem posted
  have amounts : ∀ e ∈ (build config.boosts records).postings.entries, ∀ p ∈ e.2,
      p.weight.isPositive = true ∨ p.weight = zero := by
    intro e mem p posted
    obtain ⟨r, frequency, -, -, -, -, -, cases⟩ := weights mem posted
    exact cases.imp And.left And.left
  constructor
  case weights =>
    intro e mem p posted
    obtain ⟨r, frequency, at', -, found, amount, ge, cases⟩ := weights mem posted
    exact ⟨r, frequency, at', found, isPositive_of_le amount (by decide) ge, cases⟩
  case scores => exact fun _ _ _ _ ranked => score_cases amounts ranked
  case hits => exact fun _ _ _ ok _ mem => exists_of_hit ok mem
  case allWeights =>
    intro one_le one_le' short e mem p posted
    exact isPositive_of_posted title content one_le one_le' short le mem posted
  case allScores =>
    intro one_le one_le' short order query hits ok hit mem
    obtain ⟨doc, -, ranked⟩ := exists_of_hit ok mem
    rcases score_cases amounts ranked with ⟨positive, -⟩ | ⟨-, ⟨t, w, wanted, found⟩, zeros⟩
    · exact positive
    · -- A score of zero would come from weights of zero, and there are none.
      obtain ⟨e, mem, posted⟩ := posted_of_weight? found
      have positive := isPositive_of_posted title content one_le one_le' short le mem posted
      rw [zeros t w wanted found] at positive
      exact absurd positive (by decide : ¬ zero.isPositive = true)

/-- So it is for one record of one term and the default configuration. -/
theorem weighed_build_default :
    let records : List Record := [⟨"Guide", "", "/guide/"⟩]
    Config.default.fault? = none ∧ records.length ≤ mostDocuments ∧
      Weighed Config.default.boosts records (build Config.default.boosts records) := by
  intro records
  have accepted : Config.default.fault? = none := by decide
  exact ⟨accepted, by decide, weighed_build accepted (by decide)⟩

/-- A weight is zero, and a score with it, where terms in titles count for very little. -/
theorem not_positive_of_small_boost :
    let config := { Config.default with boosts := ⟨⟨0x322bcc77⟩, Single.ofNat 1⟩ }
    let index := build config.boosts [⟨"Guide", "", "/guide/"⟩]
    config.fault? = none ∧ index.search "guide" = .ok [⟨"/guide/", zero⟩] ∧
      index.postings.entries.map Prod.snd = [[⟨0, zero⟩]] := by
  decide +kernel

end Index

end PageSearch
