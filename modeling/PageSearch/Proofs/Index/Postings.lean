import Mathlib.Data.List.Basic
import PageSearch.Proofs.Index.Build

/-!
# The postings of a built index in closed form

The folds that fill an index come to this: under a hash stand the records that have a term of it, in
the order of the records, each with a weight that depends on the record itself and on three numbers
that are the same for all of them, the number of records, the average of their lengths and the
number of the records under the hash.
-/

namespace PageSearch
namespace Index

section closedForm

variable {boosts : Boosts} {records : List Record} {hash : UInt64}

/-- The number of the records with a term of a hash. -/
def holderCount (boosts : Boosts) (records : List Record) (hash : UInt64) : Nat :=
  records.countP fun r => ((Tally.of boosts r).frequencies.get? hash).isSome

/-- The weight that a hash has in a record, among others. -/
def weightUnder (boosts : Boosts) (records : List Record) (hash : UInt64) (r : Record) :
    Option Single :=
  ((Tally.of boosts r).frequencies.get? hash).map fun frequency =>
    weight frequency (Tally.of boosts r).length
      (averageLength (records.map fun r => (Tally.of boosts r).length)) records.length
      (holderCount boosts records hash)

/-- The records with a term of a hash, by their numbers, each with its weight. -/
def postingsUnder (boosts : Boosts) (records : List Record) (hash : UInt64) : List Posting :=
  records.zipIdx.filterMap fun e => (weightUnder boosts records hash e.1).map (Posting.mk e.2)

/-- The holders of a hash are the records that have a frequency for it, with their numbers. -/
lemma holders_tallies :
    holders hash (records.map (Tally.of boosts)).zipIdx =
      records.zipIdx.filterMap fun e =>
        ((Tally.of boosts e.1).frequencies.get? hash).map (Prod.mk e.2) := by
  rw [holders, List.zipIdx_map, List.filterMap_map]
  rfl

/-- So there are as many as the definition counts. -/
lemma length_holders_tallies :
    (holders hash (records.map (Tally.of boosts)).zipIdx).length =
      holderCount boosts records hash := by
  have fst : records.zipIdx.map Prod.fst = records := List.zipIdx_map_fst 0 records
  rw [holders_tallies, List.length_filterMap_eq_countP, holderCount]
  -- Records are counted with their numbers on one side and without them on the other.
  conv_rhs => rw [← fst, List.countP_map]
  congr
  funext e
  simp

/-- What a built index holds under a hash, unless there is nothing under it. -/
lemma get?_postings_build (le : records.length ≤ mostDocuments) :
    (build boosts records).postings.get? hash =
      if postingsUnder boosts records hash = [] then none
      else some (postingsUnder boosts records hash) := by
  have closed : (holders hash (records.map (Tally.of boosts)).zipIdx).map (fun e =>
      Posting.mk e.1 (weight e.2
        (((records.map (Tally.of boosts)).map Tally.length).getD e.1 0)
        (averageLength ((records.map (Tally.of boosts)).map Tally.length)) records.length
        (holders hash (records.map (Tally.of boosts)).zipIdx).length)) =
      postingsUnder boosts records hash := by
    rw [length_holders_tallies, holders_tallies, List.map_filterMap, postingsUnder]
    -- The length of a record is looked up by its number, which leads back to the record.
    apply List.filterMap_congr
    intro e mem
    have at' : records[e.2]? = some e.1 := List.mem_zipIdx_iff_getElem?.mp mem
    simp [weightUnder, Function.comp_def, at']
  have nil : holders hash (records.map (Tally.of boosts)).zipIdx = [] ↔
      postingsUnder boosts records hash = [] := by
    rw [← closed, List.map_eq_nil_iff]
  simp only [build, List.take_of_length_le le, TermMap.get?_map, get?_group]
  by_cases none : holders hash (records.map (Tally.of boosts)).zipIdx = []
  · rw [if_pos none, if_pos (nil.mp none)]
    rfl
  · rw [if_neg none, if_neg (none ∘ nil.mpr), Option.map_some]
    exact congrArg some closed

/-- The postings under a hash are those of the definition, none where the hash has none. -/
lemma getD_postings_build (le : records.length ≤ mostDocuments) :
    ((build boosts records).postings.get? hash).getD [] = postingsUnder boosts records hash := by
  rw [get?_postings_build le]
  split
  · rename_i none
    rw [none]
    rfl
  · rfl

/-- A posting is that of a record which has a weight under the hash. -/
lemma mem_postingsUnder {p : Posting} :
    p ∈ postingsUnder boosts records hash ↔
      ∃ r, records[p.doc]? = some r ∧ weightUnder boosts records hash r = some p.weight := by
  simp only [postingsUnder, List.mem_filterMap, Option.map_eq_some_iff]
  constructor
  · intro h
    obtain ⟨e, mem, w, weight, rfl⟩ := h
    exact ⟨e.1, List.mem_zipIdx_iff_getElem?.mp mem, weight⟩
  · intro h
    obtain ⟨r, at', weight⟩ := h
    exact ⟨(r, p.doc), List.mem_zipIdx_iff_getElem?.mpr at', p.weight, weight, rfl⟩

/-- Records are numbered in ascending order. -/
lemma pairwise_zipIdx (records : List Record) :
    records.zipIdx.Pairwise fun e e' => e.2 < e'.2 := by
  have numbers : (records.zipIdx.map Prod.snd).Pairwise (· < ·) := by
    rw [List.zipIdx_map_snd]
    exact List.pairwise_lt_range' 1
  exact List.pairwise_map.mp numbers

/-- The records under a hash stand in the order of their numbers. -/
lemma pairwise_postingsUnder :
    (postingsUnder boosts records hash).Pairwise fun p q => p.doc < q.doc := by
  rw [postingsUnder, List.pairwise_filterMap]
  refine (pairwise_zipIdx records).imp ?_
  intro e e' lt p eq q eq'
  obtain ⟨-, -, rfl⟩ := Option.map_eq_some_iff.mp eq
  obtain ⟨-, -, rfl⟩ := Option.map_eq_some_iff.mp eq'
  exact lt

/-- A hash has a weight in the records with a term of it. -/
lemma isSome_weightUnder (boosts : Boosts) (records : List Record) {r : Record} :
    (weightUnder boosts records hash r).isSome = true ↔ HasHash r hash := by
  rw [weightUnder, Option.isSome_map, isSome_get?_tally]

/-- The documents under a hash are the records that have it. -/
lemma mem_map_doc_postingsUnder {doc : Nat} :
    doc ∈ (postingsUnder boosts records hash).map Posting.doc ↔
      ∃ r, records[doc]? = some r ∧ HasHash r hash := by
  simp only [← isSome_weightUnder boosts records, Option.isSome_iff_exists, List.mem_map,
    mem_postingsUnder]
  constructor
  · intro h
    obtain ⟨p, ⟨r, at', weight⟩, rfl⟩ := h
    exact ⟨r, at', _, weight⟩
  · intro h
    obtain ⟨r, at', w, weight⟩ := h
    exact ⟨⟨doc, w⟩, ⟨r, at', weight⟩, rfl⟩

/-- There is one posting for each of them. -/
lemma length_postingsUnder :
    (postingsUnder boosts records hash).length = holderCount boosts records hash := by
  rw [← length_holders_tallies, holders_tallies, postingsUnder, List.length_filterMap_eq_countP,
    List.length_filterMap_eq_countP]
  simp [weightUnder]

/-- There is a posting if some record has the hash. -/
lemma postingsUnder_ne_nil_iff (boosts : Boosts) :
    postingsUnder boosts records hash ≠ [] ↔ ∃ r ∈ records, HasHash r hash := by
  rw [← List.length_pos_iff, length_postingsUnder, holderCount, List.countP_pos_iff]
  simp only [isSome_get?_tally]

/-- An entry of a built index holds the postings under its hash, and there are some. -/
lemma eq_postingsUnder_of_mem (le : records.length ≤ mostDocuments) {e : UInt64 × List Posting}
    (mem : e ∈ (build boosts records).postings.entries) :
    e.2 = postingsUnder boosts records e.1 ∧ e.2 ≠ [] := by
  have found := TermMap.mem_entries_iff.mp mem
  rw [get?_postings_build le] at found
  split at found
  · cases found
  · rename_i filed
    have eq := Option.some.inj found
    exact ⟨eq.symm, eq ▸ filed⟩

end closedForm

section build

variable {boosts : Boosts} {records : List Record}

/-- The documents under a hash of a built index are the records with a term of that hash. -/
lemma mem_docs_build (le : records.length ≤ mostDocuments) {hash : UInt64} {doc : Nat} :
    (∃ p ∈ ((build boosts records).postings.get? hash).getD [], p.doc = doc) ↔
      ∃ r, records[doc]? = some r ∧ HasHash r hash := by
  rw [getD_postings_build le, ← List.mem_map]
  exact mem_map_doc_postingsUnder

/-- A built index has a reference for every document that it files. -/
lemma inRange_build : InRange (build boosts records) := by
  rw [← build_take]
  intro e mem p posted
  rw [(eq_postingsUnder_of_mem length_take_mostDocuments mem).1] at posted
  obtain ⟨r, at', -⟩ := mem_postingsUnder.mp posted
  rw [refs_build length_take_mostDocuments, List.length_map]
  exact (List.getElem?_eq_some_iff.mp at').1

/-- A hash has no more postings than there are documents. -/
lemma length_postings_build_le {e : UInt64 × List Posting}
    (mem : e ∈ (build boosts records).postings.entries) : e.2.length ≤ mostDocuments := by
  rw [← build_take] at mem
  rw [(eq_postingsUnder_of_mem length_take_mostDocuments mem).1, length_postingsUnder]
  calc
    _ ≤ (records.take mostDocuments).length := List.countP_le_length
    _ ≤ mostDocuments := length_take_mostDocuments

end build

end Index
end PageSearch
