import PageSearch.Proofs.Cache.Answers
import PageSearch.Proofs.Index.Search

/-!
# Searching an index from the cache

A cache takes an index from a usable file as it is. Whether the file's documents have references is
not looked at, so that a file of the right form may hold an index that ranks a document it has no
reference for. A search breaks down on such an index if it comes upon that document, and in no other
case: a built index answers every query.
-/

namespace PageSearch

namespace Index

variable {index : Index} {query : String}

/-- A term of a query leads to a document that the index has no reference for. -/
def LeadsAstray (index : Index) (query : String) : Prop :=
  ∃ t, Wanted query.toList t ∧
    ∃ p ∈ (index.postings.get? (termHash t)).getD [], index.refs.length ≤ p.doc

/-- A query leads astray if it ranks a document that has no reference. -/
lemma leadsAstray_iff :
    index.LeadsAstray query ↔
      ∃ doc ∈ (index.ranking query.toList).map Prod.fst, index.refs.length ≤ doc := by
  constructor
  · intro h
    obtain ⟨t, wanted, p, posted, stray⟩ := h
    exact ⟨p.doc, mem_ranking.mpr ⟨t, wanted, p, posted, rfl⟩, stray⟩
  · intro h
    obtain ⟨doc, ranked, stray⟩ := h
    obtain ⟨t, wanted, p, posted, rfl⟩ := mem_ranking.mp ranked
    exact ⟨t, wanted, p, posted, stray⟩

/-- A query is answered exactly if it does not lead astray. -/
lemma exists_search_eq_ok_iff :
    (∃ hits, index.search query = .ok hits) ↔ ¬ index.LeadsAstray query := by
  rw [leadsAstray_iff]
  constructor
  · intro answered astray
    obtain ⟨hits, ok⟩ := answered
    obtain ⟨doc, ranked, stray⟩ := astray
    obtain ⟨d, mem, rfl⟩ := List.mem_map.mp ranked
    obtain ⟨hit, -, held, -⟩ := exists_mem_of_forall₂ (search_eq_ok_iff.mp ok) mem
    rw [List.getElem?_eq_none stray] at held
    cases held
  · intro kept
    apply exists_search_eq_ok
    intro doc ranked
    by_contra stray
    exact kept ⟨doc, ranked, Nat.not_lt.mp stray⟩

/-- A search breaks down if one of its terms leads astray, and answers otherwise. -/
lemma search_eq_brokenDown_iff :
    index.search query = .error .brokenDown ↔ index.LeadsAstray query := by
  have answered : (∃ hits, index.search query = .ok hits) ↔ ¬ index.LeadsAstray query :=
    exists_search_eq_ok_iff
  cases result : index.search query with
  | ok hits =>
    have kept := answered.mp ⟨hits, result⟩
    simp [kept]
  | error e =>
    have astray : index.LeadsAstray query := by
      by_contra kept
      obtain ⟨hits, ok⟩ := answered.mpr kept
      rw [result] at ok
      cases ok
    simp [eq_brokenDown_of_search result, astray]

/-- An index whose documents all have references leads nobody astray. -/
lemma not_leadsAstray_of_inRange (h : index.InRange) : ¬ index.LeadsAstray query := by
  intro astray
  obtain ⟨t, -, p, posted, stray⟩ := astray
  have lt := h.lt posted
  omega

end Index

namespace Cache

/-- What can be relied on in an index that is the answer for a store. -/
structure Served (d : Folder) (key : UInt64) (index : Index) : Prop where
  /-- It has a reference for every document that it files, unless it was cached without one. -/
  inRange_iff : index.InRange ↔ ∀ loaded, cached? d key = some loaded → loaded.InRange
  /-- It answers a query, unless it was cached and a term of the query leads astray in it. -/
  answers_iff : ∀ query, (∃ hits, index.search query = .ok hits) ↔
    ∀ loaded, cached? d key = some loaded → ¬ loaded.LeadsAstray query
  /-- In that case the search breaks down. -/
  brokenDown_iff : ∀ query, index.search query = .error .brokenDown ↔
    ∃ loaded, cached? d key = some loaded ∧ loaded.LeadsAstray query

/-- A search on the index for a store breaks down only through a document that a usable file names
and has no reference for, whatever is in the folder. -/
theorem served_loadOrBuildIn (order : EntryOrder) (writer : Nat) (store : Store) (boosts : Boosts)
    (d : Folder) :
    Served d (indexKey store boosts)
      ((loadOrBuildIn Nat order writer store boosts).run d).1 := by
  rw [loadOrBuildIn_fst]
  cases cached : cached? d (indexKey store boosts) with
  | none =>
    have inRange : (Index.build boosts store.records).InRange := Index.inRange_build
    have kept (query : String) : ¬ (Index.build boosts store.records).LeadsAstray query :=
      Index.not_leadsAstray_of_inRange inRange
    constructor
    case inRange_iff => simp [cached, inRange]
    case answers_iff => simp [cached, Index.exists_search_eq_ok_iff, kept]
    case brokenDown_iff => simp [cached, Index.search_eq_brokenDown_iff, kept]
  | some loaded =>
    constructor
    case inRange_iff => simp [cached]
    case answers_iff => simp [cached, Index.exists_search_eq_ok_iff]
    case brokenDown_iff => simp [cached, Index.search_eq_brokenDown_iff]

/-- A file that is usable and names a document without a reference: the cache keeps the file and
takes the index from it, and a search for the term of that document breaks down. -/
theorem brokenDown_of_stray_document :
    let store : Store := .empty
    let key := indexKey store .default
    let stray : Index := ⟨TermMap.empty.insert (termHash "guid".toList) [⟨0, Single.one⟩], []⟩
    let bytes := Stored.bytes .ascending ⟨storedFormat, key, stray⟩
    let d := Folder.absent.writeFile (fileName key) bytes
    d.read? (fileName key) = some bytes ∧
      (loadOrBuild Nat 0 store .default).run d = (stray, d) ∧
      stray.search "guide" = .error .brokenDown := by
  intro store key stray bytes d
  have entries : stray.postings.entries = [(termHash "guid".toList, [⟨0, Single.one⟩])] := rfl
  have storable : stray.Storable := by
    refine ⟨⟨by simp [entries], ?_⟩, by simp [stray], by simp [stray]⟩
    intro e mem
    rw [entries, List.mem_singleton] at mem
    rw [mem]
    exact ⟨by decide, by simp [Posting.Fit]⟩
  have read : d.read? (fileName key) = some bytes := by
    simp [d, Folder.writeFile, Folder.make, Folder.absent, Folder.withEntries, Folder.create,
      Folder.write, Folder.read?, Folder.entry?_eq_lookup, Folder.entries]
  have cached : cached? d key = some stray := by
    rw [cached?, read, Option.bind_some, usable?_eq_some_iff]
    exact Stored.ofBytes?_bytes storedFormat_lt storable
  have astray : stray.LeadsAstray "guide" := by
    refine ⟨"guid".toList, .inl (by decide), ⟨0, Single.one⟩, ?_, Nat.le_refl 0⟩
    simp [stray, TermMap.insert, TermMap.get?_update]
  exact ⟨read, run_loadOrBuildIn_of_cached cached, Index.search_eq_brokenDown_iff.mpr astray⟩

end Cache
end PageSearch
