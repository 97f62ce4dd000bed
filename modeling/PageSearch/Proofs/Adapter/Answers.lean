import Mathlib.Tactic.Lemma
import PageSearch.Adapter.Basic
import PageSearch.Proofs.Index.Search
import PageSearch.Proofs.Term.Words

/-!
# The answers of an adapter

An adapter that is only searched always remembers what it would work out again, whatever it was
asked before. So what it answers does not depend on what it remembers, and neither does it depend
on blanks around the query.
-/

namespace PageSearch

namespace Recent

variable {α : Type} {r : Recent α}

/-- What is found was put there for the query. -/
lemma mem_of_find? {query : String} {a : α} (h : r.find? query = some a) :
    (query, a) ∈ r.entries := by
  obtain ⟨before, after, eq, -⟩ := List.lookup_eq_some_iff.mp h
  rw [eq]
  exact List.mem_append_right _ List.mem_cons_self

/-- Nothing is remembered but what is put and what was there. -/
lemma mem_put {query : String} {a : α} {e : String × α} (h : e ∈ (r.put query a).entries) :
    e = (query, a) ∨ e ∈ r.entries := by
  cases List.mem_cons.mp (List.mem_of_mem_take h) with
  | inl eq => exact .inl eq
  | inr mem => exact .inr (List.mem_filter.mp mem).1

end Recent

namespace Adapter

variable {a b : Adapter}

/-- Two adapters answer from the same index and store by the same policy. -/
structure SameSource (a b : Adapter) : Prop where
  store : a.store = b.store
  index : a.index = b.index
  policy : a.policy = b.policy

/-- An adapter shares its source with itself. -/
lemma SameSource.refl (a : Adapter) : SameSource a a :=
  ⟨rfl, rfl, rfl⟩

/-- To share a source is mutual. -/
lemma SameSource.symm (h : SameSource a b) : SameSource b a :=
  ⟨h.store.symm, h.index.symm, h.policy.symm⟩

/-- A source is passed on. -/
lemma SameSource.trans {c : Adapter} (h : SameSource a b) (h' : SameSource b c) : SameSource a c :=
  ⟨h.store.trans h'.store, h.index.trans h'.index, h.policy.trans h'.policy⟩

/-- What a query comes to depends on the source alone, not on what is remembered. -/
lemma SameSource.resolve_eq (h : SameSource a b) (query : String) :
    a.resolve query = b.resolve query := by
  obtain ⟨store, index, policy, recent⟩ := a
  obtain ⟨store', index', policy', recent'⟩ := b
  obtain ⟨rfl, rfl, rfl⟩ := h
  rfl

/-- So does the list of matches that an answer stands for. -/
lemma SameSource.matchesOf_eq (h : SameSource a b) : a.matchesOf = b.matchesOf := by
  funext answer
  rw [matchesOf, matchesOf, h.store]

/-- A hit cannot be placed only if no record has its url and the policy is to fail. -/
lemma place_eq_error_iff {hit : Hit} {e : SearchError} :
    a.place hit = .error e ↔
      a.store.positionOf? hit.reference = none ∧ a.policy = .fail ∧
        e = .danglingReference hit.reference := by
  unfold place
  cases a.store.positionOf? hit.reference with
  | some position => simp
  | none => cases a.policy <;> simp [eq_comm]

/-- A query that has no answer meets a url that no record has, or the index breaks down on it. -/
lemma resolve_eq_error {query : String} {e : SearchError} (error : a.resolve query = .error e) :
    (∃ reference, e = .danglingReference reference) ∨ e = .brokenDown := by
  unfold resolve at error
  cases ranked : a.index.search query with
  | error e' =>
    rw [ranked] at error
    cases error
    exact .inr (Index.eq_brokenDown_of_search ranked)
  | ok hits =>
    rw [ranked] at error
    -- The hits are placed first; to put the places together cannot fail.
    change (hits.mapM a.place >>= fun placed => pure placed.flatten) = _ at error
    cases placed : hits.mapM a.place with
    | ok positions =>
      rw [placed] at error
      cases error
    | error e' =>
      rw [placed] at error
      cases error
      obtain ⟨hit, -, failed⟩ := exists_of_mapM_eq_error placed
      exact .inl ⟨hit.reference, (place_eq_error_iff.mp failed).2.2⟩

/-- A search gives a remembered answer again, and otherwise works one out and remembers it. -/
lemma search_eq (a : Adapter) (query : String) :
    a.search query =
      match a.recent.find? query with
      | some answer => (.ok (a.matchesOf answer), a.remember query answer)
      | none =>
        match a.resolve query with
        | .ok answer => (.ok (a.matchesOf answer), a.remember query answer)
        | .error e => (.error e, a) := by
  unfold search look Recent.get
  cases a.recent.find? query <;> rfl

/-- Remembering leaves the source as it is. -/
lemma sameSource_remember (a : Adapter) (query : String) (answer : Resolved) :
    SameSource (a.remember query answer) a :=
  ⟨rfl, rfl, rfl⟩

/-- So does a search. -/
lemma sameSource_search (a : Adapter) (query : String) : SameSource (a.search query).2 a := by
  rw [search_eq]
  split
  · exact sameSource_remember a query _
  · split
    · exact sameSource_remember a query _
    · exact .refl a

/-- Every answer that is remembered is the one that would be worked out. -/
def Faithful (a : Adapter) : Prop :=
  ∀ e ∈ a.recent.entries, a.resolve e.1 = .ok e.2

/-- An answer that is worked out may be remembered. -/
lemma Faithful.remember (h : a.Faithful) {query : String} {answer : Resolved}
    (ok : a.resolve query = .ok answer) : (a.remember query answer).Faithful := by
  intro e mem
  rw [(sameSource_remember a query answer).resolve_eq]
  cases Recent.mem_put mem with
  | inl new =>
    rw [new]
    exact ok
  | inr old => exact h e old

/-- A faithful adapter gives the answer that it would work out, and is faithful after it. -/
lemma Faithful.search (h : a.Faithful) (query : String) :
    (a.search query).1 = (a.resolve query).map a.matchesOf ∧ (a.search query).2.Faithful := by
  rw [search_eq]
  cases found : a.recent.find? query with
  | some answer =>
    have ok := h _ (Recent.mem_of_find? found)
    refine ⟨?_, h.remember ok⟩
    rw [ok]
    rfl
  | none =>
    cases resolved : a.resolve query with
    | ok answer => exact ⟨rfl, h.remember resolved⟩
    | error e => exact ⟨rfl, h⟩

/-- An adapter has an answer, or it fails in one of two ways. -/
lemma search_cases (a : Adapter) (query : String) :
    (∃ found, (a.search query).1 = .ok found) ∨
      (∃ reference, (a.search query).1 = .error (.danglingReference reference)) ∨
      (a.search query).1 = .error .brokenDown := by
  rw [search_eq]
  cases a.recent.find? query with
  | some answer => exact .inl ⟨_, rfl⟩
  | none =>
    cases resolved : a.resolve query with
    | ok answer => exact .inl ⟨_, rfl⟩
    | error e =>
      cases resolve_eq_error resolved with
      | inl dangling =>
        obtain ⟨reference, rfl⟩ := dangling
        exact .inr (.inl ⟨reference, rfl⟩)
      | inr broken =>
        rw [broken]
        exact .inr (.inr rfl)

/-- There is room for what is remembered. -/
lemma room_of_remembered {query : String} {answer : Resolved}
    (remembered : a.recent.find? query = some answer) : 0 < a.recent.capacity :=
  lt_of_lt_of_le (List.length_pos_of_mem (Recent.mem_of_find? remembered)) a.recent.length_le

/-- An answer is remembered as far as there is room, and it was already or has been worked out. -/
lemma exists_of_search_eq_ok {query : String} {found : List Match}
    (ok : (a.search query).1 = .ok found) :
    ∃ answer, found = a.matchesOf answer ∧ (a.search query).2 = a.remember query answer ∧
      (0 < a.recent.capacity ∨ a.resolve query = .ok answer) := by
  rw [search_eq] at ok ⊢
  cases remembered : a.recent.find? query with
  | some answer =>
    rw [remembered] at ok
    cases ok
    exact ⟨answer, rfl, rfl, .inl (room_of_remembered remembered)⟩
  | none =>
    rw [remembered] at ok
    cases resolved : a.resolve query with
    | ok answer =>
      rw [resolved] at ok
      cases ok
      exact ⟨answer, rfl, rfl, .inr rfl⟩
    | error e =>
      rw [resolved] at ok
      cases ok

/-- The matches that an adapter finds have urls, since the store's records have. -/
lemma url_ne_of_search {query : String} {found : List Match}
    (ok : (a.search query).1 = .ok found) {m : Match} (mem : m ∈ found) : m.record.url ≠ "" := by
  obtain ⟨answer, rfl, -, -⟩ := exists_of_search_eq_ok ok
  obtain ⟨d, -, eq⟩ := List.mem_filterMap.mp mem
  obtain ⟨r, at', rfl⟩ := Option.map_eq_some_iff.mp eq
  exact a.store.url_ne r (List.mem_of_getElem? at')

/-- The adapter after it has been asked some queries. -/
def after (a : Adapter) (queries : List String) : Adapter :=
  queries.foldl (fun a query => (a.search query).2) a

/-- An adapter that has been asked some queries still answers from its own source, faithfully. -/
lemma Faithful.after (h : a.Faithful) (queries : List String) :
    (a.after queries).Faithful ∧ SameSource (a.after queries) a := by
  -- Every query leaves another adapter behind, with other answers remembered.
  induction queries generalizing a with
  | nil => exact ⟨h, .refl a⟩
  | cons query rest ih =>
    obtain ⟨faithful, source⟩ := ih (h.search query).2
    exact ⟨faithful, source.trans (sameSource_search a query)⟩

/-- What an adapter answers after any queries is what it would have worked out at the beginning. -/
theorem Faithful.search_after (h : a.Faithful) (earlier : List String) (query : String) :
    ((a.after earlier).search query).1 = (a.resolve query).map a.matchesOf := by
  obtain ⟨faithful, source⟩ := h.after earlier
  rw [(faithful.search query).1, source.resolve_eq, source.matchesOf_eq]

/-- Blanks around a query do not change what it comes to. -/
lemma resolve_trim (a : Adapter) (query : String) :
    a.resolve (String.ofList (Text.trim query.toList)) = a.resolve query := by
  have terms : queryTerms (Text.trim query.toList) = queryTerms query.toList := by
    simp only [queryTerms, Term.ofText_trim]
  have hits : a.index.search (String.ofList (Text.trim query.toList)) = a.index.search query := by
    simp only [Index.search, Index.ranking, String.toList_ofList, terms]
  rw [resolve, hits, resolve]

/-- The adapter that a program begins with: over a store and an index, with a policy, and with room
for so many recent queries. -/
def opened (store : Store) (index : Index) (policy : DanglingPolicy) (capacity : Nat) : Adapter :=
  ((Adapter.new store index).withPolicy policy).withCapacity capacity

/-- An adapter that remembers nothing is faithful. -/
lemma faithful_opened (store : Store) (index : Index) (policy : DanglingPolicy) (capacity : Nat) :
    (opened store index policy capacity).Faithful :=
  fun _ mem => nomatch mem

end Adapter
end PageSearch
