import Mathlib.Data.List.Nodup
import Mathlib.Tactic.Lemma
import PageSearch.Proofs.Adapter.Answers
import PageSearch.Proofs.Store.Position

/-!
# Pages are found by their titles

Over the index that is built from its own store an adapter never meets a url without a record, so
that its policy does not matter and its answers are the rankings of the index. A title with a
letter or a digit in it wants at least one of its own terms, whichever way it is read, and so ranks
its own record.
-/

namespace PageSearch

namespace Index

/-- What a title asks for as a query, it files as a title. -/
lemma mem_titleTerms_of_wanted {r : Record} {t : List Char} (h : Wanted r.title.toList t) :
    t ∈ titleTerms r := by
  cases h with
  | inl dropped => exact Term.ofText_dropStopWords_subset _ dropped
  | inr kept => exact kept.2

/-- A text with a letter or a digit in it wants a term. -/
lemma exists_wanted {query : List Char} {c : Char} (mem : c ∈ query)
    (alphanumeric : Text.isAlphanumeric c = true) : ∃ t, Wanted query t := by
  by_cases none : Term.ofText .dropStopWords query = []
  · obtain ⟨t, kept⟩ :=
      List.exists_mem_of_ne_nil _ (Term.ofText_keepStopWords_ne_nil mem alphanumeric)
    exact ⟨t, .inr ⟨none, kept⟩⟩
  · obtain ⟨t, dropped⟩ := List.exists_mem_of_ne_nil _ none
    exact ⟨t, .inl dropped⟩

/-- A title with a letter or a digit in it finds its record. -/
lemma finds_title {r : Record} {c : Char} (mem : c ∈ r.title.toList)
    (alphanumeric : Text.isAlphanumeric c = true) : Finds r.title.toList r := by
  obtain ⟨t, wanted⟩ := exists_wanted mem alphanumeric
  exact ⟨t, wanted, t, .inl (mem_titleTerms_of_wanted wanted), rfl⟩

/-- Blanks at the ends of a query do not change what it finds. -/
lemma finds_trim {query : List Char} {r : Record} : Finds (Text.trim query) r ↔ Finds query r := by
  simp only [Finds, Wanted, Term.ofText_trim]

end Index

namespace Adapter

variable {a : Adapter} {boosts : Boosts}

/-- Over the index of its own store an adapter answers with the ranking of the index. -/
lemma resolve_eq_ranking (own : a.index = Index.build boosts a.store.records)
    (le : a.store.records.length ≤ Index.mostDocuments) (query : String) :
    a.resolve query = .ok (a.index.ranking query.toList) := by
  obtain ⟨hits, ok⟩ := Index.exists_search_build boosts le query
  rw [← own] at ok
  have placed : hits.mapM a.place = .ok ((a.index.ranking query.toList).map fun d => [d]) := by
    rw [mapM_eq_ok_iff, List.forall₂_map_right_iff]
    -- Documents are numbered by positions, so a hit is placed where its document comes from.
    apply List.Forall₂.flip
    apply (Index.search_eq_ok_iff.mp ok).imp
    intro d hit h
    obtain ⟨held, score⟩ := h
    rw [own, Index.refs_build le, List.getElem?_map, Option.map_eq_some_iff] at held
    have position := Store.positionOf?_eq_some_iff.mpr held
    show a.place hit = .ok [d]
    simp [place, position, score]
  rw [resolve, ok]
  show (hits.mapM a.place >>= fun placed => pure placed.flatten) = _
  rw [placed]
  show Except.ok ((a.index.ranking query.toList).map fun d => [d]).flatten = _
  rw [← List.flatMap_def, List.flatMap_singleton']

/-- The records of a ranking are different records. -/
lemma nodup_map_record_ranking (index : Index) (query : List Char) :
    ((a.matchesOf (index.ranking query)).map Match.record).Nodup := by
  have eq : (a.matchesOf (index.ranking query)).map Match.record =
      ((index.ranking query).map Prod.fst).filterMap (a.store.records[·]?) := by
    simp only [matchesOf, List.map_filterMap, List.filterMap_map]
    congr
    funext d
    simp [Function.comp_def]
  rw [eq]
  -- No document is ranked twice, and no record is at two positions.
  refine List.Nodup.filterMap ?_ Index.nodup_ranking
  intro p q r atp atq
  exact Store.position_unique atp atq rfl

/-- The records of the matches are those at the positions of the answer. -/
lemma mem_map_record_matchesOf {answer : Resolved} {r : Record} :
    r ∈ (a.matchesOf answer).map Match.record ↔
      ∃ p ∈ answer.map Prod.fst, a.store.records[p]? = some r := by
  simp only [matchesOf, List.mem_map, List.mem_filterMap, Option.map_eq_some_iff]
  constructor
  · intro h
    obtain ⟨m, ⟨d, mem, r', atp, rfl⟩, rfl⟩ := h
    exact ⟨d.1, ⟨d, mem, rfl⟩, atp⟩
  · intro h
    obtain ⟨p, ⟨d, mem, rfl⟩, atp⟩ := h
    exact ⟨⟨r, d.2⟩, ⟨d, mem, r, atp, rfl⟩, rfl⟩

/-- Over the index of its own store an adapter works out an answer to every query, with the records
that the query finds. -/
lemma exists_matches_own (own : a.index = Index.build boosts a.store.records)
    (le : a.store.records.length ≤ Index.mostDocuments) (query : String) :
    ∃ found, (a.resolve query).map a.matchesOf = .ok found ∧
      ∀ r, r ∈ found.map Match.record ↔
        r ∈ a.store.records ∧ Index.Finds query.toList r := by
  rw [resolve_eq_ranking own le]
  refine ⟨_, rfl, fun r => ?_⟩
  rw [mem_map_record_matchesOf, own]
  simp only [Index.mem_ranking_build le]
  constructor
  · rintro ⟨p, ⟨r', atp', finds⟩, atp⟩
    cases atp.symm.trans atp'
    exact ⟨List.mem_of_getElem? atp, finds⟩
  · rintro ⟨mem, finds⟩
    obtain ⟨p, atp⟩ := List.mem_iff_getElem?.mp mem
    exact ⟨p, ⟨r, atp, finds⟩, atp⟩

/-- Over the index of its own store an adapter finds each record by its title, if there is a letter
or a digit in the title: whatever it has been asked before, whatever its policy is and however many
answers it remembers, the record is among the matches exactly once. -/
theorem search_title (store : Store) (le : store.records.length ≤ Index.mostDocuments)
    (boosts : Boosts) (policy : DanglingPolicy) (capacity : Nat) (earlier : List String)
    {r : Record} (mem : r ∈ store.records) {c : Char} (memTitle : c ∈ r.title.toList)
    (alphanumeric : Text.isAlphanumeric c = true) :
    ∃ found,
      (((opened store (Index.build boosts store.records) policy capacity).after earlier).search
        r.title).1 = .ok found ∧
      (found.map Match.record).count r = 1 := by
  rw [(faithful_opened store _ policy capacity).search_after,
    resolve_eq_ranking (a := opened _ _ _ _) rfl le]
  -- No record is there twice, so that it is enough to find it once.
  refine ⟨_, rfl, List.count_eq_one_of_mem (nodup_map_record_ranking _ _) ?_⟩
  obtain ⟨p, atp⟩ := List.mem_iff_getElem?.mp mem
  refine mem_map_record_matchesOf.mpr ⟨p, ?_, atp⟩
  exact (Index.mem_ranking_build le).mpr ⟨r, atp, Index.finds_title memTitle alphanumeric⟩

/-- So it finds a page whose title is a stop word, which the body of another page has too. -/
theorem search_title_stop_word :
    let r : Record := ⟨"It", "", "/it/"⟩
    let store : Store :=
      .ofDistinct [r, ⟨"Guide", "<p>Read it</p>", "/guide/"⟩]
        (by decide) (by decide)
    store.records.length ≤ Index.mostDocuments ∧ r ∈ store.records ∧ 'I' ∈ r.title.toList ∧
      Text.isAlphanumeric 'I' = true ∧
      ∃ found,
        (((opened store (Index.build ⟨Single.zero, Single.invalid⟩ store.records) .fail 1).after
          ["it", "guide"]).search r.title).1 = .ok found ∧
        (found.map Match.record).count r = 1 := by
  intro r store
  have mem : r ∈ store.records := List.mem_cons_self
  have alphanumeric : Text.isAlphanumeric 'I' = true := by decide
  exact ⟨by decide, mem, by decide, alphanumeric,
    search_title store (by decide) _ .fail 1 _ mem (by decide) alphanumeric⟩

end Adapter
end PageSearch
