import Mathlib.Data.List.Forall2
import Mathlib.Tactic.Lemma
import PageSearch.Index.Search
import PageSearch.Proofs.Index.Postings

/-!
# What a search returns

The scores of a query have one entry for each document that is found under the hash of one of the
query's terms. Ranking the scores only reorders them, and every ranked document that the index has
a reference for becomes one hit. On a built index these documents are the records that share the
hash of a term with the query, whatever the boosts are.
-/

namespace PageSearch

variable {α β ε : Type}

/-- A list of computations succeeds if all of them do, and then gives their results in order. -/
lemma mapM_eq_ok_iff {f : α → Except ε β} {l : List α} {results : List β} :
    l.mapM f = .ok results ↔ List.Forall₂ (fun a b => f a = .ok b) l results := by
  induction l generalizing results with
  | nil =>
    rw [List.mapM_nil, List.forall₂_nil_left_iff]
    exact ⟨fun h => by cases h; rfl, fun h => by subst h; rfl⟩
  | cons a rest ih =>
    rw [List.mapM_cons, List.forall₂_cons_left_iff]
    constructor
    · intro h
      cases first : f a with
      | error e =>
        rw [first] at h
        cases h
      | ok b =>
        rw [first] at h
        cases others : rest.mapM f with
        | error e =>
          rw [others] at h
          cases h
        | ok bs =>
          rw [others] at h
          cases h
          exact ⟨b, bs, rfl, ih.mp others, rfl⟩
    · intro h
      obtain ⟨b, bs, first, others, rfl⟩ := h
      rw [first, ih.mpr others]
      rfl

/-- If every step has a result, all have. -/
lemma exists_mapM_eq_ok {f : α → Except ε β} {l : List α} (h : ∀ a ∈ l, ∃ b, f a = .ok b) :
    ∃ results, l.mapM f = .ok results := by
  induction l with
  | nil => exact ⟨[], rfl⟩
  | cons a rest ih =>
    obtain ⟨b, first⟩ := h a List.mem_cons_self
    obtain ⟨bs, others⟩ := ih fun a mem => h a (List.mem_cons_of_mem _ mem)
    exact ⟨b :: bs, mapM_eq_ok_iff.mpr (.cons first (mapM_eq_ok_iff.mp others))⟩

/-- If not all have, the error is that of some step. -/
lemma exists_of_mapM_eq_error {f : α → Except ε β} {l : List α} {e : ε}
    (h : l.mapM f = .error e) : ∃ a ∈ l, f a = .error e := by
  induction l with
  | nil => cases h
  | cons a rest ih =>
    rw [List.mapM_cons] at h
    cases first : f a with
    | error e' =>
      rw [first] at h
      cases h
      exact ⟨a, List.mem_cons_self, first⟩
    | ok b =>
      rw [first] at h
      cases others : rest.mapM f with
      | error e' =>
        rw [others] at h
        cases h
        obtain ⟨a', mem, failed⟩ := ih others
        exact ⟨a', List.mem_cons_of_mem _ mem, failed⟩
      | ok bs =>
        rw [others] at h
        cases h

/-- Every member of a list has its counterpart in a list that matches it. -/
lemma exists_mem_of_forall₂ {R : α → β → Prop} {l : List α} {l' : List β}
    (matched : List.Forall₂ R l l') {a : α} (mem : a ∈ l) : ∃ b ∈ l', R a b := by
  induction matched with
  | nil => cases mem
  | cons first _ ih =>
    cases mem with
    | head => exact ⟨_, List.mem_cons_self, first⟩
    | tail _ mem =>
      obtain ⟨b, mem', h⟩ := ih mem
      exact ⟨b, List.mem_cons_of_mem _ mem', h⟩

/-- A term is one of a query's: it is one of its terms without stop words, or, where the query has
none of these, one of its terms with them. -/
def Wanted (query t : List Char) : Prop :=
  t ∈ Term.ofText .dropStopWords query ∨
    Term.ofText .dropStopWords query = [] ∧ t ∈ Term.ofText .keepStopWords query

/-- A query with terms without stop words wants just these. -/
lemma wanted_iff_of_ne_nil {query t : List Char} (some : Term.ofText .dropStopWords query ≠ []) :
    Wanted query t ↔ t ∈ Term.ofText .dropStopWords query := by
  simp [Wanted, some]

/-- A query without terms but stop words wants the stems of its stop words. -/
lemma wanted_iff_of_eq_nil {query t : List Char} (none : Term.ofText .dropStopWords query = []) :
    Wanted query t ↔ t ∈ Term.ofText .keepStopWords query := by
  simp [Wanted, none]

/-- The terms that are looked up are those the query wants. -/
lemma mem_queryTerms {query t : List Char} : t ∈ queryTerms query ↔ Wanted query t := by
  simp only [queryTerms, List.mem_mergeSort, List.mem_eraseDups, List.isEmpty_iff]
  by_cases none : Term.ofText .dropStopWords query = []
  · rw [if_pos none, wanted_iff_of_eq_nil none]
  · rw [if_neg none, wanted_iff_of_ne_nil none]

namespace Index

/-- The documents that have a score stay, and that of the posting joins them if it had none. -/
lemma map_fst_addPosting (scores : List (Nat × Single)) (p : Posting) :
    (addPosting scores p).map Prod.fst =
      if p.doc ∈ scores.map Prod.fst then scores.map Prod.fst
      else scores.map Prod.fst ++ [p.doc] := by
  -- On the scores, since the posting's document is looked for from the front.
  induction scores with
  | nil => rfl
  | cons x rest ih =>
    obtain ⟨doc, score⟩ := x
    simp only [addPosting]
    by_cases same : doc = p.doc
    · simp [same]
    · simp only [same, if_false, List.map_cons, ih, List.mem_cons, Ne.symm same, false_or]
      split <;> rfl

/-- Postings give scores to their documents, and take none away. -/
lemma mem_map_fst_foldl_addPosting {postings : List Posting} {scores : List (Nat × Single)}
    {doc : Nat} :
    doc ∈ (postings.foldl addPosting scores).map Prod.fst ↔
      doc ∈ scores.map Prod.fst ∨ ∃ p ∈ postings, p.doc = doc := by
  induction postings generalizing scores with
  | nil => simp
  | cons p rest ih =>
    rw [List.foldl_cons, ih, map_fst_addPosting]
    -- Either the document of `p` has a score already, or it gets its first one here.
    split
    · rename_i scored
      constructor
      · intro h
        cases h with
        | inl old => exact .inl old
        | inr posted =>
          obtain ⟨q, mem, eq⟩ := posted
          exact .inr ⟨q, List.mem_cons_of_mem _ mem, eq⟩
      · intro h
        cases h with
        | inl old => exact .inl old
        | inr posted =>
          obtain ⟨q, mem, eq⟩ := posted
          cases mem with
          | head =>
            rw [← eq]
            exact .inl scored
          | tail _ mem => exact .inr ⟨q, mem, eq⟩
    · simp only [List.mem_append, List.mem_singleton, List.exists_mem_cons_iff, or_assoc]
      exact or_congr_right (or_congr_left eq_comm)

/-- No document gets two scores. -/
lemma nodup_map_fst_foldl_addPosting {postings : List Posting} {scores : List (Nat × Single)}
    (nodup : (scores.map Prod.fst).Nodup) :
    ((postings.foldl addPosting scores).map Prod.fst).Nodup := by
  induction postings generalizing scores with
  | nil => exact nodup
  | cons p rest ih =>
    apply ih
    rw [map_fst_addPosting]
    split
    · exact nodup
    · rename_i new
      exact List.nodup_append.mpr ⟨nodup, by simp, fun a mem b mem' e => by simp_all⟩

/-- The documents that have one of some terms with their scores, best first. -/
def rankingBy (index : Index) (terms : List (List Char)) : List (Nat × Single) :=
  (index.scores terms).mergeSort ranksBefore

/-- The hits of a ranking. -/
def hitsOf (index : Index) (ranked : List (Nat × Single)) : Except SearchError (List Hit) :=
  ranked.mapM fun (doc, score) =>
    match index.refs[doc]? with
    | some reference => .ok ⟨reference, score⟩
    | none => .error .brokenDown

section ranking

variable {index : Index} {terms : List (List Char)} {query : List Char}

/-- A query is ranked by its terms. -/
lemma rankingBy_queryTerms : index.rankingBy (queryTerms query) = index.ranking query := rfl

/-- To rank is to put the scores in order. -/
lemma rankingBy_perm : (index.rankingBy terms).Perm (index.scores terms) :=
  List.mergeSort_perm _ _

/-- No document is ranked twice. -/
lemma nodup_rankingBy : ((index.rankingBy terms).map Prod.fst).Nodup :=
  (rankingBy_perm.map Prod.fst).nodup_iff.mpr (nodup_map_fst_foldl_addPosting .nil)

/-- A document is ranked if it is found under the hash of one of the terms. -/
lemma mem_rankingBy {doc : Nat} :
    doc ∈ (index.rankingBy terms).map Prod.fst ↔
      ∃ t ∈ terms, ∃ p ∈ (index.postings.get? (termHash t)).getD [], p.doc = doc := by
  rw [(rankingBy_perm.map Prod.fst).mem_iff, scores, mem_map_fst_foldl_addPosting]
  simp only [List.map_nil, List.not_mem_nil, false_or, List.mem_flatMap]
  constructor
  · intro h
    obtain ⟨p, ⟨t, among, mem⟩, eq⟩ := h
    exact ⟨t, among, p, mem, eq⟩
  · intro h
    obtain ⟨t, among, p, mem, eq⟩ := h
    exact ⟨p, ⟨t, among, mem⟩, eq⟩

/-- A document under a hash has a reference. -/
lemma InRange.lt {hash : UInt64} {p : Posting} (inRange : index.InRange)
    (posted : p ∈ (index.postings.get? hash).getD []) : p.doc < index.refs.length := by
  cases found : index.postings.get? hash with
  | none =>
    rw [found] at posted
    cases posted
  | some postings =>
    rw [found] at posted
    exact inRange (hash, postings) (TermMap.mem_entries_iff.mpr found) p posted

/-- Where every filed document has a reference, so has every ranked one. -/
lemma InRange.lt_of_ranked {doc : Nat} (inRange : index.InRange)
    (ranked : doc ∈ (index.rankingBy terms).map Prod.fst) : doc < index.refs.length := by
  obtain ⟨t, -, p, posted, rfl⟩ := mem_rankingBy.mp ranked
  exact inRange.lt posted

/-- So no query ranks a document twice. -/
lemma nodup_ranking : ((index.ranking query).map Prod.fst).Nodup :=
  nodup_rankingBy

/-- A document is ranked if it is found under the hash of one of the query's terms. -/
lemma mem_ranking {doc : Nat} :
    doc ∈ (index.ranking query).map Prod.fst ↔
      ∃ t, Wanted query t ∧ ∃ p ∈ (index.postings.get? (termHash t)).getD [], p.doc = doc := by
  simp only [← rankingBy_queryTerms, mem_rankingBy, mem_queryTerms]

end ranking

section hits

variable {index : Index} {ranked : List (Nat × Single)} {hits : List Hit} {query : String}

/-- A ranking whose documents are held gives one hit for each of them, with its reference and
score. -/
lemma hitsOf_eq_ok_iff :
    index.hitsOf ranked = .ok hits ↔
      List.Forall₂ (fun (d : Nat × Single) hit => index.refs[d.1]? = some hit.reference ∧
        hit.score = d.2) ranked hits := by
  rw [hitsOf, mapM_eq_ok_iff]
  apply Eq.to_iff
  congr
  funext d hit
  obtain ⟨doc, score⟩ := d
  obtain ⟨reference, score'⟩ := hit
  cases held : index.refs[doc]? with
  | none => simp [held]
  | some reference' => simp [held, eq_comm]

/-- Ranked documents that have references give hits. -/
lemma exists_hitsOf_eq_ok (held : ∀ doc ∈ ranked.map Prod.fst, doc < index.refs.length) :
    ∃ hits, index.hitsOf ranked = .ok hits := by
  apply exists_mapM_eq_ok
  intro d mem
  have lt := held d.1 (List.mem_map_of_mem mem)
  exact ⟨⟨index.refs[d.1], d.2⟩, by simp [lt]⟩

/-- A search that succeeds gives one hit for each ranked document, with its reference and score. -/
lemma search_eq_ok_iff :
    index.search query = .ok hits ↔
      List.Forall₂ (fun (d : Nat × Single) hit => index.refs[d.1]? = some hit.reference ∧
        hit.score = d.2) (index.ranking query.toList) hits :=
  hitsOf_eq_ok_iff

/-- An index answers a query if it has a reference for every document that it ranks. -/
lemma exists_search_eq_ok
    (held : ∀ doc ∈ (index.ranking query.toList).map Prod.fst, doc < index.refs.length) :
    ∃ hits, index.search query = .ok hits :=
  exists_hitsOf_eq_ok held

/-- A search that fails does so because it broke down. -/
lemma eq_brokenDown_of_search {e : SearchError} (error : index.search query = .error e) :
    e = .brokenDown := by
  obtain ⟨⟨doc, score⟩, -, failed⟩ := exists_of_mapM_eq_error error
  cases held : index.refs[doc]? with
  | none =>
    simp only [held] at failed
    cases failed
    rfl
  | some reference =>
    simp only [held] at failed
    cases failed

end hits

/-- A term of a query is filed under the hash of a term of a record. -/
def Finds (query : List Char) (r : Record) : Prop :=
  ∃ t, Wanted query t ∧ HasHash r (termHash t)

/-- On a built index a query ranks the records that it shares the hash of a term with. -/
lemma mem_ranking_build {boosts : Boosts} {records : List Record}
    (le : records.length ≤ mostDocuments) {query : List Char} {doc : Nat} :
    doc ∈ ((build boosts records).ranking query).map Prod.fst ↔
      ∃ r, records[doc]? = some r ∧ Finds query r := by
  rw [mem_ranking]
  simp only [mem_docs_build le]
  constructor
  · intro h
    obtain ⟨t, wanted, r, at', has⟩ := h
    exact ⟨r, at', t, wanted, has⟩
  · intro h
    obtain ⟨r, at', t, wanted, has⟩ := h
    exact ⟨t, wanted, r, at', has⟩

/-- A built index answers every query. -/
lemma exists_search_build (boosts : Boosts) {records : List Record}
    (le : records.length ≤ mostDocuments) (query : String) :
    ∃ hits, (build boosts records).search query = .ok hits := by
  apply exists_search_eq_ok
  intro doc mem
  obtain ⟨r, at', -⟩ := (mem_ranking_build le).mp mem
  rw [refs_build le, List.length_map]
  exact (List.getElem?_eq_some_iff.mp at').1

/-- A search returns a document: it succeeds, and one of its hits is that of the document. -/
def Returns (index : Index) (query : String) (doc : Nat) : Prop :=
  ∃ hits, index.search query = .ok hits ∧ ∃ hit ∈ hits,
    (doc, hit.score) ∈ index.ranking query.toList ∧ index.refs[doc]? = some hit.reference

/-- Where every filed document has a reference, a search returns those that it ranks. -/
lemma InRange.returns_iff {index : Index} {query : String} {doc : Nat} (inRange : index.InRange) :
    index.Returns query doc ↔ doc ∈ (index.ranking query.toList).map Prod.fst := by
  constructor
  · intro h
    obtain ⟨hits, -, hit, -, ranked, -⟩ := h
    exact List.mem_map.mpr ⟨_, ranked, rfl⟩
  · intro h
    obtain ⟨d, ranked, rfl⟩ := List.mem_map.mp h
    obtain ⟨hits, ok⟩ := exists_search_eq_ok fun _ ranked => inRange.lt_of_ranked ranked
    obtain ⟨hit, mem, held, score⟩ := exists_mem_of_forall₂ (search_eq_ok_iff.mp ok) ranked
    refine ⟨hits, ok, hit, mem, ?_, held⟩
    rw [score]
    exact ranked

/-- A built index returns the records that have a number and share the hash of a term with the
query. -/
lemma returns_build_iff {boosts : Boosts} {records : List Record} {query : String} {doc : Nat} :
    (build boosts records).Returns query doc ↔
      doc < mostDocuments ∧ ∃ r, records[doc]? = some r ∧ Finds query.toList r := by
  rw [inRange_build.returns_iff, ← build_take, mem_ranking_build length_take_mostDocuments]
  simp only [List.getElem?_take]
  by_cases numbered : doc < mostDocuments
  · simp [numbered]
  · simp [numbered]

end Index
end PageSearch
