import Mathlib.Algebra.GroupWithZero.Nat
import Mathlib.Data.List.Nodup
import PageSearch.Proofs.Index.Postings

/-!
# What the weights of a built index are

A built index is compared with what it should be: the urls in order, one entry for each hash of a
term that occurs, and in it the records with such a term in the order of the records. The weight of
a term in a record is given by the counts of the term in the two fields, the number of the record's
terms and the average of these numbers over the records that have any. It is what the index holds as
long as no two terms of the record share a hash.
-/

namespace PageSearch
namespace Index

/-- A record has a term in its title or in its body. -/
def HasTerm (r : Record) (t : List Char) : Prop :=
  t ∈ titleTerms r ∨ t ∈ contentTerms r

/-- Different terms of a record are filed under different hashes. -/
def TellsApart (r : Record) : Prop :=
  ∀ s t, HasTerm r s → HasTerm r t → termHash s = termHash t → s = t

instance (r : Record) : Decidable (TellsApart r) :=
  decidable_of_iff (∀ s ∈ titleTerms r ++ contentTerms r, ∀ t ∈ titleTerms r ++ contentTerms r,
      termHash s = termHash t → s = t) <| by
    simp only [List.mem_append]
    exact ⟨fun h s t hs ht => h s hs t ht, fun h s hs t ht => h s t hs ht⟩

/-- A frequency with what the occurrences of a term in one field add to it. -/
def addOccurrences (boost : Single) (terms : List (List Char)) (t : List Char)
    (frequency : Single) : Single :=
  if t ∈ terms then frequency + Single.ofNat (terms.count t) * boost else frequency

/-- The frequency of a term: zero, with the occurrences in the title and then those in the body. -/
def termFrequency (boosts : Boosts) (r : Record) (t : List Char) : Single :=
  addOccurrences boosts.content (contentTerms r) t
    (addOccurrences boosts.title (titleTerms r) t Single.zero)

/-- The number of the terms in the title and in the body of a record. -/
def termTotal (r : Record) : Nat :=
  (titleTerms r).length + (contentTerms r).length

/-- The average number of terms of the records that have any, and one if there are none. -/
def meanTotal (records : List Record) : Single :=
  let totals := (records.map termTotal).filter (· ≠ 0)
  if totals = [] then Single.one else Single.ofNat totals.sum / Single.ofNat totals.length

/-- The weight of a term in a record when so many records have a term of its hash. -/
def termWeight (boosts : Boosts) (records : List Record) (holders : Nat) (r : Record)
    (t : List Char) : Single :=
  let norm := (Single.ofNat (termTotal r) / meanTotal records).max Single.half
  (Single.one + termFrequency boosts r t / norm).log *
    (Single.one + Single.ofNat records.length / Single.ofNat holders).log

section counts

variable {terms : List (List Char)} {t : List Char}

/-- A hash that only one term has leads to the count of that term. -/
lemma filter_countTerms (apart : ∀ s ∈ terms, termHash s = termHash t → s = t) :
    (countTerms terms).filter (fun e => termHash e.1 == termHash t) =
      if t ∈ terms then [(t, terms.count t)] else [] := by
  -- As the hash is that of one term, to look for the hash is to look for the term.
  have own : terms.eraseDups.filter (fun s => termHash s == termHash t) =
      terms.eraseDups.filter (· == t) := by
    apply List.filter_congr
    intro s mem
    rw [Bool.eq_iff_iff, beq_iff_eq, beq_iff_eq]
    exact ⟨apart s (List.mem_eraseDups.mp mem), congrArg termHash⟩
  rw [countTerms, List.filter_map]
  simp only [Function.comp_def]
  rw [own, List.filter_beq]
  split
  · rename_i mem
    have once := List.count_eq_one_of_mem (nodup_eraseDups terms) (List.mem_eraseDups.mpr mem)
    rw [once]
    rfl
  · rename_i absent
    have never := List.count_eq_zero_of_not_mem (mt List.mem_eraseDups.mp absent)
    rw [never]
    rfl

/-- A field adds to the frequency of each of its terms, where hashes tell the terms apart. -/
lemma get?_addField (boost : Single) (apart : ∀ s ∈ terms, termHash s = termHash t → s = t)
    (frequencies : TermMap Single) :
    (addField boost terms frequencies).get? (termHash t) =
      if t ∈ terms then
        some ((frequencies.get? (termHash t)).getD Single.zero +
          Single.ofNat (terms.count t) * boost)
      else frequencies.get? (termHash t) := by
  have found := TermMap.get?_foldl_update (fun e : List Char × Nat => termHash e.1)
    (fun e old => old.getD Single.zero + Single.ofNat e.2 * boost) (countTerms terms) frequencies
    (termHash t)
  rw [filter_countTerms apart] at found
  rw [addField_eq_foldl]
  refine found.trans ?_
  split <;> rfl

end counts

section reference

variable {boosts : Boosts} {records : List Record} {r : Record} {t : List Char}

/-- The tally of a record has the frequency of each of its terms. -/
lemma get?_tally (apart : TellsApart r) (has : HasTerm r t) :
    (Tally.of boosts r).frequencies.get? (termHash t) = some (termFrequency boosts r t) := by
  have title := get?_addField boosts.title (fun s mem => apart s t (.inl mem) has) .empty
  have content := get?_addField boosts.content (fun s mem => apart s t (.inr mem) has)
    (addField boosts.title (titleTerms r) .empty)
  rw [title] at content
  refine content.trans ?_
  unfold termFrequency addOccurrences
  -- The field that lacks the term adds nothing, and one of them has it.
  by_cases inTitle : t ∈ titleTerms r
  · by_cases inContent : t ∈ contentTerms r
    · simp [inTitle, inContent]
    · simp [inTitle, inContent]
  · have inContent : t ∈ contentTerms r := has.resolve_left inTitle
    simp [inTitle, inContent]

/-- The average length is the mean of the counts of the terms. -/
lemma averageLength_tallies :
    averageLength (records.map fun r => (Tally.of boosts r).length) = meanTotal records := by
  have counted : (records.map termTotal).filter (0 < ·) = (records.map termTotal).filter (· ≠ 0) :=
    List.filter_congr fun n _ => by simp [Nat.pos_iff_ne_zero]
  show averageLength (records.map termTotal) = _
  simp only [averageLength, meanTotal, counted, List.isEmpty_iff, List.sum_eq_foldl]

/-- Under the hash of one of its terms a record has the weight of that term. -/
lemma weightUnder_termHash (apart : TellsApart r) (has : HasTerm r t) :
    weightUnder boosts records (termHash t) r =
      some (termWeight boosts records (holderCount boosts records (termHash t)) r t) := by
  rw [weightUnder, get?_tally apart has, averageLength_tallies]
  rfl

end reference

/-- An index is what it should be for some records. -/
structure Represents (boosts : Boosts) (records : List Record) (index : Index) : Prop where
  /-- It refers to the urls of the records, in order. -/
  refs : index.refs = records.map Record.url
  /-- It has an entry for each hash of a term that occurs. -/
  keys_iff : ∀ hash, hash ∈ index.postings.entries.map Prod.fst ↔ ∃ r ∈ records, HasHash r hash
  /-- It has no two entries for one hash. -/
  keys_nodup : (index.postings.entries.map Prod.fst).Nodup
  /-- An entry is not empty. -/
  filed : ∀ e ∈ index.postings.entries, e.2 ≠ []
  /-- Its documents stand in ascending order. -/
  ascending : ∀ e ∈ index.postings.entries, (e.2.map Posting.doc).Pairwise (· < ·)
  /-- They are the records with a term of the hash. -/
  docs_iff : ∀ e ∈ index.postings.entries, ∀ doc,
    doc ∈ e.2.map Posting.doc ↔ ∃ r, records[doc]? = some r ∧ HasHash r e.1
  /-- They have references. -/
  inRange : index.InRange
  /-- A term that shares its hash with no other term of the record has the weight that it should. -/
  weights : ∀ e ∈ index.postings.entries, ∀ p ∈ e.2, ∀ r t, records[p.doc]? = some r →
    TellsApart r → HasTerm r t → termHash t = e.1 →
      p.weight = termWeight boosts records e.2.length r t

/-- A built index is what it should be. -/
theorem represents_build (boosts : Boosts) {records : List Record}
    (le : records.length ≤ mostDocuments) : Represents boosts records (build boosts records) := by
  constructor
  case refs => exact refs_build le
  case keys_iff =>
    intro hash
    rw [TermMap.mem_keys_iff, get?_postings_build le, ← postingsUnder_ne_nil_iff boosts]
    split <;> simp_all
  case keys_nodup => exact TermMap.nodup_keys _
  case filed =>
    intro e mem
    exact (eq_postingsUnder_of_mem le mem).2
  case ascending =>
    intro e mem
    rw [(eq_postingsUnder_of_mem le mem).1]
    exact List.pairwise_map.mpr pairwise_postingsUnder
  case docs_iff =>
    intro e mem doc
    rw [(eq_postingsUnder_of_mem le mem).1]
    exact mem_map_doc_postingsUnder
  case inRange => exact inRange_build
  case weights =>
    intro e mem p posted r t at' apart has hash
    rw [(eq_postingsUnder_of_mem le mem).1] at posted ⊢
    rw [length_postingsUnder]
    obtain ⟨r', at'', weight⟩ := mem_postingsUnder.mp posted
    rw [at'] at at''
    cases at''
    rw [← hash, weightUnder_termHash apart has] at weight
    rw [← hash]
    exact (Option.some.inj weight).symm

/-- So it is for a title that joins its words, which are apart in the body, for a page without any
terms and for two pages with one url, whatever numbers the boosts are. -/
theorem represents_build_joined :
    let joined : Record := ⟨"TypeAhead is", "<p>type-ahead, as you type</p>", "/type/"⟩
    let records : List Record := [joined, ⟨"", "<br>", "/"⟩, ⟨"Type", "", "/type/"⟩]
    records.length ≤ mostDocuments ∧ TellsApart joined ∧ HasTerm joined "typeahead".toList ∧
      Represents ⟨Single.zero, Single.invalid⟩ records
        (build ⟨Single.zero, Single.invalid⟩ records) := by
  intro joined records
  have apart : TellsApart joined := by decide +kernel
  have has : HasTerm joined "typeahead".toList := .inl (by decide +kernel)
  exact ⟨by decide, apart, has, represents_build _ (by decide)⟩

end Index
end PageSearch
