import Mathlib.Tactic.Lemma
import PageSearch.Index.Build
import PageSearch.Proofs.Index.TermMap

/-!
# How an index is filled

A record's tally has a frequency for the hash of each of its terms, whether it is in the title or in
the body. No record is lost and none is filed twice: after the tallies of the first records, a hash
leads to the holders among these records, in their order. References are the urls of all records
that can be numbered.
-/

namespace PageSearch

/-- Without repetitions nothing is there twice. -/
lemma nodup_eraseDups {α : Type} [BEq α] [LawfulBEq α] (l : List α) : l.eraseDups.Nodup := by
  cases l with
  | nil => simp
  | cons a rest =>
    rw [List.eraseDups_cons, List.nodup_cons]
    refine ⟨?_, nodup_eraseDups (rest.filter fun b => !b == a)⟩
    simp [List.mem_eraseDups]
termination_by l.length
decreasing_by exact Nat.lt_succ_of_le (List.length_filter_le _ _)

namespace Index

/-- A record has a term that is filed under a hash. -/
def HasHash (r : Record) (hash : UInt64) : Prop :=
  ∃ t, (t ∈ titleTerms r ∨ t ∈ contentTerms r) ∧ termHash t = hash

/-- An index has a reference for every document that it files. -/
def InRange (index : Index) : Prop :=
  ∀ e ∈ index.postings.entries, ∀ p ∈ e.2, p.doc < index.refs.length

/-- The terms that are counted are those that were given. -/
lemma exists_mem_countTerms {terms : List (List Char)} {p : List Char → Prop} :
    (∃ e ∈ countTerms terms, p e.1) ↔ ∃ t ∈ terms, p t := by
  constructor
  · intro h
    obtain ⟨e, mem, h⟩ := h
    obtain ⟨t, memT, rfl⟩ := List.mem_map.mp mem
    exact ⟨t, List.mem_eraseDups.mp memT, h⟩
  · intro h
    obtain ⟨t, mem, h⟩ := h
    refine ⟨(t, terms.count t), List.mem_map.mpr ⟨t, List.mem_eraseDups.mpr mem, rfl⟩, h⟩

/-- A field adds the weight of each of its terms in turn. -/
lemma addField_eq_foldl (boost : Single) (terms : List (List Char)) (frequencies : TermMap Single) :
    addField boost terms frequencies =
      (countTerms terms).foldl
        (fun m e => m.update (termHash e.1) fun old =>
          old.getD Single.zero + Single.ofNat e.2 * boost) frequencies := rfl

/-- A hash has a weight after a field is added if it had one or a term of the field has it. -/
lemma isSome_get?_addField {boost : Single} {terms : List (List Char)}
    {frequencies : TermMap Single} {hash : UInt64} :
    ((addField boost terms frequencies).get? hash).isSome = true ↔
      (frequencies.get? hash).isSome = true ∨ ∃ t ∈ terms, termHash t = hash := by
  rw [addField_eq_foldl, ← exists_mem_countTerms]
  exact TermMap.isSome_get?_foldl_update (fun e : List Char × Nat => termHash e.1)
    (fun e old => old.getD Single.zero + Single.ofNat e.2 * boost) (countTerms terms) frequencies
    hash

/-- A record's tally has a frequency for the hash of each term of the record, and for no other. -/
lemma isSome_get?_tally (boosts : Boosts) {r : Record} {hash : UInt64} :
    ((Tally.of boosts r).frequencies.get? hash).isSome = true ↔ HasHash r hash := by
  simp only [Tally.of, isSome_get?_addField, TermMap.get?_empty, Option.isSome_none,
    Bool.false_eq_true, false_or]
  constructor
  · intro h
    cases h with
    | inl title =>
      obtain ⟨t, mem, eq⟩ := title
      exact ⟨t, .inl mem, eq⟩
    | inr content =>
      obtain ⟨t, mem, eq⟩ := content
      exact ⟨t, .inr mem, eq⟩
  · intro h
    obtain ⟨t, mem, eq⟩ := h
    cases mem with
    | inl title => exact .inl ⟨t, title, eq⟩
    | inr content => exact .inr ⟨t, content, eq⟩

/-- Among numbered tallies, the documents with a frequency for a hash, each with that frequency. -/
def holders (hash : UInt64) (tallies : List (Tally × Nat)) : List (Nat × Single) :=
  tallies.filterMap fun (tally, doc) => (tally.frequencies.get? hash).map (doc, ·)

/-- The holders of a hash are found document by document. -/
lemma holders_cons (hash : UInt64) (tally : Tally) (doc : Nat) (rest : List (Tally × Nat)) :
    holders hash ((tally, doc) :: rest) =
      (tally.frequencies.get? hash).toList.map (doc, ·) ++ holders hash rest := by
  simp only [holders, List.filterMap_cons]
  cases tally.frequencies.get? hash <;> rfl

/-- A tally files its document under the hashes it has a frequency for. -/
lemma get?_addTally (groups : TermMap (List (Nat × Single))) (doc : Nat) (tally : Tally)
    (hash : UInt64) :
    (addTally groups doc tally).get? hash =
      match tally.frequencies.get? hash with
      | some frequency => some ((groups.get? hash).getD [] ++ [(doc, frequency)])
      | none => groups.get? hash := by
  -- The frequencies have each hash once, so a hash is updated at most once.
  have found := TermMap.get?_foldl_update (fun e : UInt64 × Single => e.1)
    (fun e old => old.getD [] ++ [(doc, e.2)]) tally.frequencies.entries groups hash
  rw [TermMap.filter_entries tally.frequencies.ascending] at found
  refine Eq.trans found ?_
  simp only [TermMap.get?]
  cases tally.frequencies.entries.lookup hash <;> rfl

/-- After further tallies a hash leads to the documents it led to before, followed by its holders
among these tallies. -/
lemma get?_foldl_addTally (hash : UInt64) (tallies : List (Tally × Nat))
    (groups : TermMap (List (Nat × Single))) :
    (tallies.foldl (fun groups (tally, doc) => addTally groups doc tally) groups).get? hash =
      if holders hash tallies = [] then groups.get? hash
      else some ((groups.get? hash).getD [] ++ holders hash tallies) := by
  -- The first tally changes the groups that the others are added to.
  induction tallies generalizing groups with
  | nil => rfl
  | cons x rest ih =>
    obtain ⟨tally, doc⟩ := x
    rw [List.foldl_cons, ih, get?_addTally]
    rw [holders_cons]
    cases tally.frequencies.get? hash with
    | none => simp
    | some f =>
      by_cases none : holders hash rest = []
      · simp [none]
      · simp [none]

/-- The groups of some tallies lead from a hash to its holders, if it has any. -/
lemma get?_group (tallies : List Tally) (hash : UInt64) :
    (group tallies).get? hash =
      if holders hash tallies.zipIdx = [] then none else some (holders hash tallies.zipIdx) := by
  rw [group, get?_foldl_addTally]
  simp

section build

variable {boosts : Boosts} {records : List Record}

/-- The references are the urls of the records, as far as documents can be numbered. -/
lemma refs_build (le : records.length ≤ mostDocuments) :
    (build boosts records).refs = records.map Record.url := by
  simp [build, List.take_of_length_le le]

/-- Records past the last number are not indexed. -/
lemma build_take : build boosts (records.take mostDocuments) = build boosts records := by
  simp [build, List.take_take]

/-- The rest can be numbered. -/
lemma length_take_mostDocuments : (records.take mostDocuments).length ≤ mostDocuments :=
  List.length_take_le _ _

/-- So there are never too many references. -/
lemma length_refs_build_le : (build boosts records).refs.length ≤ mostDocuments := by
  rw [← build_take, refs_build length_take_mostDocuments, List.length_map]
  exact length_take_mostDocuments

/-- Every reference is the url of a record. -/
lemma mem_of_mem_refs_build {ref : String} (mem : ref ∈ (build boosts records).refs) :
    ∃ r ∈ records, r.url = ref := by
  rw [← build_take, refs_build length_take_mostDocuments] at mem
  obtain ⟨r, mem, eq⟩ := List.mem_map.mp mem
  exact ⟨r, List.mem_of_mem_take mem, eq⟩

end build

end Index
end PageSearch
