import PageSearch.Proofs.Adapter.Titles

/-!
# Which hits become matches

An adapter goes through the hits of its index, best first. A hit whose url a record has becomes a
match, with the score of the hit and that record, of which there is only one. Any other hit is
skipped or makes the query fail, as the policy says, and then the first one does. The index may be
built from any records at all: the answer mirrors what it ranks as far as the store goes.
-/

namespace PageSearch

/-- A record of the store has a url. -/
def Store.Holds (store : Store) (url : String) : Prop :=
  ∃ r ∈ store.records, r.url = url

instance (store : Store) : DecidablePred store.Holds :=
  fun url => inferInstanceAs (Decidable (∃ r ∈ store.records, r.url = url))

/-- A url leads nowhere exactly if no record has it. -/
lemma Store.positionOf?_eq_none_iff {store : Store} {url : String} :
    store.positionOf? url = none ↔ ¬ store.Holds url := by
  rw [Option.eq_none_iff_forall_ne_some]
  constructor
  · intro none held
    obtain ⟨r, mem, eq⟩ := held
    obtain ⟨p, atp⟩ := List.mem_iff_getElem?.mp mem
    exact none p (positionOf?_eq_some_iff.mpr ⟨r, atp, eq⟩)
  · intro absent p eq
    obtain ⟨r, atp, url⟩ := positionOf?_eq_some_iff.mp eq
    exact absent ⟨r, List.mem_of_getElem? atp, url⟩

namespace Adapter

/-- A match stands for a hit: it has the score of the hit, and the one record with its url. -/
structure StandsFor (store : Store) (hit : Hit) (m : Match) : Prop where
  held : m.record ∈ store.records
  url : m.record.url = hit.reference
  only : ∀ r ∈ store.records, r.url = hit.reference → r = m.record
  score : m.score = hit.score

/-- The positions of the hits whose urls a store holds, with their scores. -/
def positions (store : Store) (hits : List Hit) : Resolved :=
  hits.filterMap fun hit => (store.positionOf? hit.reference).map (·, hit.score)

section resolve

variable {a : Adapter} {query : String} {hits : List Hit}

/-- A hit that is not skipped has a position in the store. -/
lemma place_eq_ok {hit : Hit} (placed : a.policy = .skip ∨ a.store.Holds hit.reference) :
    a.place hit =
      .ok ((a.store.positionOf? hit.reference).map fun p => (p, hit.score)).toList := by
  unfold place
  cases position : a.store.positionOf? hit.reference with
  | some p => rfl
  | none =>
    have skip : a.policy = .skip :=
      placed.resolve_right (Store.positionOf?_eq_none_iff.mp position)
    rw [skip]
    rfl

/-- If no hit fails, each is placed at its position, or left out. -/
lemma mapM_place (placed : ∀ hit ∈ hits, a.policy = .skip ∨ a.store.Holds hit.reference) :
    hits.mapM a.place =
      .ok (hits.map fun hit =>
        ((a.store.positionOf? hit.reference).map fun p => (p, hit.score)).toList) := by
  rw [mapM_eq_ok_iff, List.forall₂_map_right_iff, List.forall₂_same]
  intro hit mem
  exact place_eq_ok (placed hit mem)

/-- Where every hit is held or skipped, the answer is made of those that are held. -/
lemma resolve_eq_positions (ok : a.index.search query = .ok hits)
    (placed : ∀ hit ∈ hits, a.policy = .skip ∨ a.store.Holds hit.reference) :
    a.resolve query = .ok (positions a.store hits) := by
  rw [resolve, ok]
  show (hits.mapM a.place >>= fun placed => pure placed.flatten) = _
  rw [mapM_place placed, positions, List.filterMap_eq_flatMap_toList, List.flatMap_def]
  rfl

/-- Where hits may not be skipped, the first one that is not held is the error. -/
lemma resolve_eq_danglingReference {before after : List Hit} {hit : Hit}
    (ok : a.index.search query = .ok (before ++ hit :: after)) (fail : a.policy = .fail)
    (held : ∀ hit ∈ before, a.store.Holds hit.reference) (absent : ¬ a.store.Holds hit.reference) :
    a.resolve query = .error (.danglingReference hit.reference) := by
  have stuck : a.place hit = .error (.danglingReference hit.reference) :=
    place_eq_error_iff.mpr ⟨Store.positionOf?_eq_none_iff.mpr absent, fail, rfl⟩
  rw [resolve, ok]
  show ((before ++ hit :: after).mapM a.place >>= fun placed => pure placed.flatten) = _
  rw [List.mapM_append, mapM_place fun hit mem => .inr (held hit mem), List.mapM_cons, stuck]
  rfl

end resolve

/-- The matches of the positions are those of the hits that are held, in their order. -/
lemma standsFor_matchesOf_positions (a : Adapter) (hits : List Hit) :
    List.Forall₂ (StandsFor a.store) (hits.filter fun hit => a.store.Holds hit.reference)
      (a.matchesOf (positions a.store hits)) := by
  -- On the hits: one that is not held is left out on both sides.
  induction hits with
  | nil => exact .nil
  | cons hit rest ih =>
    cases position : a.store.positionOf? hit.reference with
    | none =>
      have absent := Store.positionOf?_eq_none_iff.mp position
      simpa [positions, position, absent] using ih
    | some p =>
      obtain ⟨r, atp, url⟩ := Store.positionOf?_eq_some_iff.mp position
      have mem := List.mem_of_getElem? atp
      have held : a.store.Holds hit.reference := ⟨r, mem, url⟩
      have stands : StandsFor a.store hit ⟨r, hit.score⟩ := by
        refine ⟨mem, url, ?_, rfl⟩
        intro s mem' url'
        obtain ⟨q, atq⟩ := List.mem_iff_getElem?.mp mem'
        have same := Store.position_unique atq atp (url'.trans url.symm)
        rw [same, atp] at atq
        exact (Option.some.inj atq).symm
      simpa [positions, position, held, matchesOf, atp] using List.Forall₂.cons stands ih

/-- The answers by the two policies mirror the hits of an index as far as the store goes. -/
structure Mirrors (store : Store) (hits : List Hit)
    (answer : DanglingPolicy → Except SearchError (List Match)) : Prop where
  /-- If hits may be skipped, those that are held become matches, in their order. -/
  skip : ∃ found, answer .skip = .ok found ∧
    List.Forall₂ (StandsFor store) (hits.filter fun hit => store.Holds hit.reference) found
  /-- If every hit is held, it does not matter whether hits may be skipped. -/
  whole : (∀ hit ∈ hits, store.Holds hit.reference) → answer .fail = answer .skip
  /-- If hits may not be skipped, the first one that is not held is the error. -/
  dangling : ∀ before hit after, hits = before ++ hit :: after →
    (∀ h ∈ before, store.Holds h.reference) → ¬ store.Holds hit.reference →
      answer .fail = .error (.danglingReference hit.reference)

/-- What is worked out by the two policies mirrors the hits of the index. -/
lemma mirrors_resolve (store : Store) {index : Index} (capacity : Nat) {query : String}
    {hits : List Hit} (ok : index.search query = .ok hits) :
    Mirrors store hits fun policy =>
      ((opened store index policy capacity).resolve query).map
        (opened store index policy capacity).matchesOf := by
  have skipped : (opened store index .skip capacity).resolve query = .ok (positions store hits) :=
    resolve_eq_positions ok fun _ _ => .inl rfl
  constructor
  case skip =>
    refine ⟨_, ?_, standsFor_matchesOf_positions (opened store index .skip capacity) hits⟩
    rw [skipped]
    rfl
  case whole =>
    intro held
    have found : (opened store index .fail capacity).resolve query = .ok (positions store hits) :=
      resolve_eq_positions ok fun hit mem => .inr (held hit mem)
    rw [found, skipped]
    rfl
  case dangling =>
    intro before hit after eq held absent
    subst eq
    have stuck : (opened store index .fail capacity).resolve query =
        .error (.danglingReference hit.reference) :=
      resolve_eq_danglingReference ok rfl held absent
    rw [stuck]
    rfl

/-- An index that is built from the records of a store ranks urls that the store holds. -/
lemma holds_of_own {store : Store} {boosts : Boosts} {query : String} {hits : List Hit}
    (ok : (Index.build boosts store.records).search query = .ok hits) :
    ∀ hit ∈ hits, store.Holds hit.reference := by
  intro hit mem
  obtain ⟨d, -, at', -⟩ := exists_mem_of_forall₂ (Index.search_eq_ok_iff.mp ok).flip mem
  exact Index.mem_of_mem_refs_build (List.mem_of_getElem? at')

/-- Over the index of its own store an adapter has a match for every hit. -/
lemma standsFor_matchesOf_ranking {a : Adapter} {boosts : Boosts} {query : String}
    {hits : List Hit} (own : a.index = Index.build boosts a.store.records)
    (le : a.store.records.length ≤ Index.mostDocuments) (ok : a.index.search query = .ok hits) :
    List.Forall₂ (StandsFor a.store) hits (a.matchesOf (a.index.ranking query.toList)) := by
  have held : ∀ hit ∈ hits, a.store.Holds hit.reference := by
    rw [own] at ok
    exact holds_of_own ok
  have found := resolve_eq_positions ok fun hit mem => .inr (held hit mem)
  have stands := standsFor_matchesOf_positions a hits
  rw [List.filter_eq_self.mpr fun hit mem => decide_eq_true (held hit mem)] at stands
  rw [resolve_eq_ranking own le] at found
  rwa [Except.ok.inj found]

/-- The answers of an adapter mirror the hits of its index, whatever records the index is built from
and whatever the adapter has been asked before. Over the index of its own store it answers every
query with a match for each hit and no record twice, whatever its policy is. -/
theorem mirrors_search (store : Store) (boosts : Boosts) {indexed : List Record}
    (le : indexed.length ≤ Index.mostDocuments) (capacity : Nat) (earlier : List String)
    (query : String) :
    let index := Index.build boosts indexed
    let answer := fun policy =>
      (((opened store index policy capacity).after earlier).search query).1
    ∃ hits, index.search query = .ok hits ∧ Mirrors store hits answer ∧
      (indexed = store.records → ∃ found, (∀ policy, answer policy = .ok found) ∧
        List.Forall₂ (StandsFor store) hits found ∧ found.length = hits.length ∧
        (found.map Match.record).Nodup) := by
  intro index answer
  obtain ⟨hits, ok⟩ := Index.exists_search_build boosts le query
  have answer_eq (policy : DanglingPolicy) : answer policy =
      ((opened store index policy capacity).resolve query).map
        (opened store index policy capacity).matchesOf :=
    (faithful_opened store index policy capacity).search_after earlier query
  refine ⟨hits, ok, ?_, ?_⟩
  · rw [funext answer_eq]
    exact mirrors_resolve store capacity ok
  · intro own
    -- Over the index of its own store no hit dangles, so the policy does not count.
    subst own
    have stands := standsFor_matchesOf_ranking (a := opened store index .skip capacity) rfl le ok
    refine ⟨_, ?_, stands, stands.length_eq.symm, nodup_map_record_ranking _ _⟩
    intro policy
    rw [answer_eq, resolve_eq_ranking (a := opened store index policy capacity) rfl le]
    rfl

/-- So they do over an index of pages of which one has left the site, two share a url and one has
none, for a stop word that all of them have. -/
theorem mirrors_search_stale :
    let store : Store :=
      .ofDistinct [⟨"It", "", "/it/"⟩, ⟨"Guide", "<p>Read it</p>", "/guide/"⟩]
        (by decide) (by decide)
    let indexed : List Record :=
      [⟨"It was", "", "/was/"⟩, ⟨"It", "", "/it/"⟩, ⟨"It", "again", "/it/"⟩, ⟨"Is it", "", ""⟩]
    let index := Index.build .default indexed
    indexed.length ≤ Index.mostDocuments ∧ ∃ hits, index.search "it" = .ok hits ∧
      Mirrors store hits fun policy =>
        (((opened store index policy 1).after ["guide", "it"]).search "it").1 := by
  intro store indexed index
  have le : indexed.length ≤ Index.mostDocuments := by decide
  obtain ⟨hits, ok, mirrors, -⟩ := mirrors_search store .default le 1 ["guide", "it"] "it"
  exact ⟨le, hits, ok, mirrors⟩

end Adapter
end PageSearch
