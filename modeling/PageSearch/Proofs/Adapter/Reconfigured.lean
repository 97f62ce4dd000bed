import PageSearch.Proofs.Adapter.Resolution

/-!
# Adapters that are reconfigured

The policy and the room for recent queries may be changed while an adapter is in use. More or less
room is made by forgetting everything; a change of the policy keeps what is remembered. Whatever an
adapter has been used for, what it remembers for a query are the hits that are held, which is the
answer by either policy if all of them are held.

So a new policy counts for every query that is not remembered, and for every one without a dangling
hit. A query that is remembered and has one still gets its answer when it should fail.
-/

namespace PageSearch

namespace Recent

/-- What is remembered can be found, if there is room for it. -/
lemma find?_put {α : Type} {r : Recent α} (room : 0 < r.capacity) (query : String) (a : α) :
    (r.put query a).find? query = some a := by
  obtain ⟨n, eq⟩ := Nat.exists_eq_succ_of_ne_zero (Nat.ne_of_gt room)
  simp [find?, put, eq]

end Recent

namespace Adapter

variable {a : Adapter} {query : String} {answer : Resolved}

/-- What may be done with an adapter. -/
inductive Use where
  | search (query : String)
  | policy (policy : DanglingPolicy)
  | capacity (capacity : Nat)

def use (a : Adapter) : Use → Adapter
  | .search query => (a.search query).2
  | .policy policy => a.withPolicy policy
  | .capacity capacity => a.withCapacity capacity

/-- The adapter after it has been used. -/
def used (a : Adapter) (uses : List Use) : Adapter :=
  uses.foldl use a

/-- The index ranks a url for a query that no record has. -/
def Dangles (store : Store) (index : Index) (query : String) : Prop :=
  ∃ hits, index.search query = .ok hits ∧ ∃ hit ∈ hits, ¬ store.Holds hit.reference

/-- An answer is put together from the places of the hits, or fails with the first that fails. -/
lemma resolve_of_search {hits : List Hit} (ranked : a.index.search query = .ok hits) :
    a.resolve query = (hits.mapM a.place).map List.flatten := by
  rw [resolve, ranked]
  show (hits.mapM a.place >>= fun placed => pure placed.flatten) = _
  cases hits.mapM a.place <;> rfl

/-- A query with a dangling hit fails if no hit may be skipped. -/
lemma resolve_of_dangles (dangles : Dangles a.store a.index query) (fail : a.policy = .fail) :
    ∃ reference, a.resolve query = .error (.danglingReference reference) := by
  obtain ⟨hits, ranked, hit, mem, absent⟩ := dangles
  have stuck := place_eq_error_iff.mpr ⟨Store.positionOf?_eq_none_iff.mpr absent, fail, rfl⟩
  rw [resolve_of_search ranked]
  -- The error is that of the first dangling hit, which need not be `hit`.
  cases each : hits.mapM a.place with
  | ok results =>
    obtain ⟨p, -, here⟩ := exists_mem_of_forall₂ (mapM_eq_ok_iff.mp each) mem
    rw [stuck] at here
    cases here
  | error e =>
    obtain ⟨first, -, failed⟩ := exists_of_mapM_eq_error each
    obtain ⟨-, -, rfl⟩ := place_eq_error_iff.mp failed
    exact ⟨first.reference, rfl⟩

/-- An answer is made of the hits that are held, and every other hit may be skipped. -/
lemma resolve_eq_ok_iff :
    a.resolve query = .ok answer ↔
      ∃ hits, a.index.search query = .ok hits ∧ answer = positions a.store hits ∧
        ∀ hit ∈ hits, a.policy = .skip ∨ a.store.Holds hit.reference := by
  constructor
  · intro ok
    cases ranked : a.index.search query with
    | error e =>
      rw [resolve, ranked] at ok
      cases ok
    | ok hits =>
      have placed : ∀ hit ∈ hits, a.policy = .skip ∨ a.store.Holds hit.reference := by
        intro hit mem
        cases policy : a.policy with
        | skip => exact .inl rfl
        | fail =>
          -- A hit that is not held would have made the search fail.
          refine .inr (by_contra fun absent => ?_)
          obtain ⟨reference, error⟩ := resolve_of_dangles ⟨hits, ranked, hit, mem, absent⟩ policy
          rw [error] at ok
          cases ok
      rw [resolve_eq_positions ranked placed] at ok
      cases ok
      exact ⟨hits, rfl, rfl, placed⟩
  · rintro ⟨hits, ranked, rfl, placed⟩
    exact resolve_eq_positions ranked placed

/-- An answer by any policy is the one by which dangling hits are skipped. -/
lemma resolve_skip_of_ok (ok : a.resolve query = .ok answer) :
    (a.withPolicy .skip).resolve query = .ok answer := by
  obtain ⟨hits, ranked, rfl, -⟩ := resolve_eq_ok_iff.mp ok
  exact resolve_eq_ok_iff.mpr ⟨hits, ranked, rfl, fun _ _ => .inl rfl⟩

/-- An answer by which dangling hits are skipped is that by any policy, if there are none. -/
lemma resolve_of_not_dangles (ok : (a.withPolicy .skip).resolve query = .ok answer)
    (none : ¬ Dangles a.store a.index query) : a.resolve query = .ok answer := by
  obtain ⟨hits, ranked, rfl, -⟩ := resolve_eq_ok_iff.mp ok
  refine resolve_eq_ok_iff.mpr ⟨hits, ranked, rfl, fun hit mem => .inr ?_⟩
  exact by_contra fun absent => none ⟨hits, ranked, hit, mem, absent⟩

/-- What is remembered for a query is the answer by which dangling hits are skipped. -/
def Lenient (a : Adapter) : Prop :=
  ∀ e ∈ a.recent.entries, (a.withPolicy .skip).resolve e.1 = .ok e.2

/-- The answer by which dangling hits are skipped may be remembered. -/
lemma Lenient.remember (h : a.Lenient) (ok : (a.withPolicy .skip).resolve query = .ok answer) :
    (a.remember query answer).Lenient := by
  intro e mem
  have same : SameSource ((a.remember query answer).withPolicy .skip) (a.withPolicy .skip) :=
    ⟨rfl, rfl, rfl⟩
  rw [same.resolve_eq]
  cases Recent.mem_put mem with
  | inl new =>
    rw [new]
    exact ok
  | inr old => exact h e old

/-- A search gives the answer by its policy if the query is not remembered, and the answer by which
dangling hits are skipped if it is. -/
lemma Lenient.search (h : a.Lenient) (query : String) :
    (a.search query).1 =
        ((if (a.recent.find? query).isSome then a.withPolicy .skip else a).resolve query).map
          a.matchesOf ∧
      (a.search query).2.Lenient := by
  rw [search_eq]
  cases found : a.recent.find? query with
  | some answer =>
    have ok := h _ (Recent.mem_of_find? found)
    refine ⟨?_, h.remember ok⟩
    rw [Option.isSome_some, if_pos rfl, ok]
    rfl
  | none =>
    rw [Option.isSome_none, if_neg Bool.false_ne_true]
    cases resolved : a.resolve query with
    | ok answer => exact ⟨rfl, h.remember (resolve_skip_of_ok resolved)⟩
    | error e => exact ⟨rfl, h⟩

/-- Nothing that is done with an adapter makes it remember anything else, and it stays with its
store and index. -/
lemma Lenient.use (h : a.Lenient) (u : Use) :
    (a.use u).Lenient ∧ (a.use u).store = a.store ∧ (a.use u).index = a.index := by
  cases u with
  | search query =>
    have source := sameSource_search a query
    exact ⟨(h.search query).2, source.store, source.index⟩
  | policy policy => exact ⟨h, rfl, rfl⟩
  | capacity capacity => exact ⟨nofun, rfl, rfl⟩

/-- Nor does a sequence of uses. -/
lemma Lenient.used (h : a.Lenient) (uses : List Use) :
    (a.used uses).Lenient ∧ (a.used uses).store = a.store ∧ (a.used uses).index = a.index := by
  induction uses generalizing a with
  | nil => exact ⟨h, rfl, rfl⟩
  | cons u rest ih =>
    obtain ⟨lenient, store, index⟩ := h.use u
    obtain ⟨lenient', store', index'⟩ := ih lenient
    exact ⟨lenient', store'.trans store, index'.trans index⟩

/-- The policy does not count for a query: it is remembered, although it has a dangling hit and
should fail. -/
structure Outdated (a : Adapter) (query : String) : Prop where
  fail : a.policy = .fail
  remembered : (a.recent.find? query).isSome = true
  dangles : Dangles a.store a.index query

/-- An adapter that remembers lenient answers gives those by its policy, unless outdated. -/
lemma Lenient.search_of_not_outdated (h : a.Lenient) (current : ¬ a.Outdated query) :
    (a.search query).1 = (a.resolve query).map a.matchesOf := by
  rw [(h.search query).1]
  cases found : a.recent.find? query with
  | none => rfl
  | some answer =>
    have ok := h _ (Recent.mem_of_find? found)
    have same : a.resolve query = .ok answer := by
      -- Either hits may be skipped, or what is remembered has no dangling hit.
      cases policy : a.policy with
      | skip => rwa [(show SameSource a (a.withPolicy .skip) from ⟨rfl, rfl, policy⟩).resolve_eq]
      | fail =>
        refine resolve_of_not_dangles ok fun dangles => current ?_
        exact ⟨policy, by rw [found, Option.isSome_some], dangles⟩
    rw [Option.isSome_some, if_pos rfl, ok, same]

/-- An outdated answer is given, although the policy asks for an error. -/
lemma Lenient.search_of_outdated (h : a.Lenient) (outdated : a.Outdated query) :
    ∃ found reference, (a.search query).1 = .ok found ∧
      ((a.withPolicy .skip).resolve query).map a.matchesOf = .ok found ∧
      ((a.withPolicy .fail).resolve query).map a.matchesOf =
        .error (.danglingReference reference) := by
  obtain ⟨answer, found⟩ := Option.isSome_iff_exists.mp outdated.remembered
  have ok := h _ (Recent.mem_of_find? found)
  obtain ⟨reference, error⟩ :=
    resolve_of_dangles (a := a.withPolicy .fail) outdated.dangles rfl
  refine ⟨a.matchesOf answer, reference, ?_, by rw [ok]; rfl, by rw [error]; rfl⟩
  rw [(h.search query).1, outdated.remembered, if_pos rfl, ok]
  rfl

/-- To choose the policy that is in force changes nothing. -/
lemma withPolicy_self (a : Adapter) : a.withPolicy a.policy = a :=
  rfl

/-- The answers of an adapter are those by its policy, and of no other kind, unless outdated. -/
lemma Lenient.search_eq_iff (h : a.Lenient) (query : String) :
    (a.search query).1 = (a.resolve query).map a.matchesOf ↔ ¬ a.Outdated query := by
  refine ⟨fun same outdated => ?_, h.search_of_not_outdated⟩
  obtain ⟨found, reference, ok, -, error⟩ := h.search_of_outdated outdated
  rw [← outdated.fail, withPolicy_self, ← same, ok] at error
  cases error

/-- Searches are uses of an adapter that keep its policy. -/
lemma Lenient.after (h : a.Lenient) (queries : List String) :
    (a.after queries).Lenient ∧ SameSource (a.after queries) a := by
  induction queries generalizing a with
  | nil => exact ⟨h, .refl a⟩
  | cons query rest ih =>
    obtain ⟨lenient, source⟩ := ih (h.search query).2
    exact ⟨lenient, source.trans (sameSource_search a query)⟩

/-- An adapter that has not changed its policy still answers faithfully. -/
lemma Faithful.used (h : a.Faithful) {uses : List Use} (kept : ∀ policy, .policy policy ∉ uses) :
    (a.used uses).Faithful := by
  induction uses generalizing a with
  | nil => exact h
  | cons u rest ih =>
    refine ih ?_ fun policy mem => kept policy (List.mem_cons_of_mem u mem)
    cases u with
    | search query => exact (h.search query).2
    | policy policy => exact absurd List.mem_cons_self (kept policy)
    | capacity capacity => exact nofun

/-- What a faithful adapter remembers is not outdated: if it should fail, it would not have been
remembered. -/
lemma Faithful.not_outdated (h : a.Faithful) (query : String) : ¬ a.Outdated query := by
  intro outdated
  obtain ⟨answer, found⟩ := Option.isSome_iff_exists.mp outdated.remembered
  obtain ⟨reference, error⟩ := resolve_of_dangles outdated.dangles outdated.fail
  rw [h _ (Recent.mem_of_find? found)] at error
  cases error

section twoAnswers

variable {b : Adapter} {query' : String}
  (ha : a.Lenient) (hb : b.Lenient) (source : SameSource b a)
  (same : ∀ c : Adapter, c.resolve query' = c.resolve query)
include ha hb source same

/-- Two adapters answer alike what comes to the same, if both answers are outdated or neither is. -/
lemma Lenient.search_eq_search (alike : b.Outdated query' ↔ a.Outdated query) :
    (b.search query').1 = (a.search query).1 := by
  -- Outdated answers are both those by which hits are skipped; others are by the policy.
  by_cases outdated : a.Outdated query
  · obtain ⟨found, -, ok, skipped, -⟩ := ha.search_of_outdated outdated
    obtain ⟨found', -, ok', skipped', -⟩ := hb.search_of_outdated (alike.mpr outdated)
    have lenient : SameSource (b.withPolicy .skip) (a.withPolicy .skip) :=
      ⟨source.store, source.index, rfl⟩
    rw [lenient.resolve_eq, same, source.matchesOf_eq, skipped] at skipped'
    rw [ok, ok', skipped']
  · rw [ha.search_of_not_outdated outdated,
      hb.search_of_not_outdated fun outdated' => outdated (alike.mp outdated'),
      source.resolve_eq, same, source.matchesOf_eq]

/-- If only one of the answers is outdated, that one is given, and there is none in its place. -/
lemma Lenient.not_ok_of_outdated (outdated : a.Outdated query) (current : ¬ b.Outdated query') :
    (∃ found, (a.search query).1 = .ok found) ∧ ¬ ∃ found, (b.search query').1 = .ok found := by
  obtain ⟨found, reference, ok, -, failed⟩ := ha.search_of_outdated outdated
  refine ⟨⟨found, ok⟩, ?_⟩
  rw [← outdated.fail, withPolicy_self] at failed
  rw [hb.search_of_not_outdated current, source.resolve_eq, same, source.matchesOf_eq, failed]
  exact nofun

/-- So if both have an answer, or neither has, both answers are outdated or neither is. -/
lemma Lenient.outdated_iff_of_ok_iff
    (ok_iff : (∃ found, (b.search query').1 = .ok found) ↔
      ∃ found, (a.search query).1 = .ok found) :
    b.Outdated query' ↔ a.Outdated query := by
  constructor
  · intro outdated
    by_contra current
    have differ :=
      Lenient.not_ok_of_outdated hb ha source.symm (fun c => (same c).symm) outdated current
    exact differ.2 (ok_iff.mp differ.1)
  · intro outdated
    by_contra current
    have differ := Lenient.not_ok_of_outdated ha hb source same outdated current
    exact differ.2 (ok_iff.mpr differ.1)

end twoAnswers

/-- A fresh adapter gives the answer that would be worked out. -/
lemma search_opened (a : Adapter) (policy : DanglingPolicy) (room : Nat) (query : String) :
    ((opened a.store a.index policy room).search query).1 =
      ((a.withPolicy policy).resolve query).map a.matchesOf := by
  have source : SameSource (opened a.store a.index policy room) (a.withPolicy policy) :=
    ⟨rfl, rfl, rfl⟩
  rw [((faithful_opened a.store a.index policy room).search query).1, source.resolve_eq,
    source.matchesOf_eq]
  rfl

/-- A query that was answered is remembered, if there is room. -/
lemma search_recent_find? (room : 0 < a.recent.capacity) {found : List Match}
    (ok : (a.search query).1 = .ok found) : ((a.search query).2.recent.find? query).isSome := by
  rw [search_eq] at ok ⊢
  cases remembered : a.recent.find? query with
  | some answer =>
    show ((a.recent.put query answer).find? query).isSome
    rw [Recent.find?_put room, Option.isSome_some]
  | none =>
    rw [remembered] at ok
    cases resolved : a.resolve query with
    | ok answer =>
      show ((a.recent.put query answer).find? query).isSome
      rw [Recent.find?_put room, Option.isSome_some]
    | error e =>
      rw [resolved] at ok
      cases ok

/-- What an adapter that has been used answers after a change of its policy, compared with fresh
adapters over the same store and index, which have so much room for recent queries. -/
structure Reconfigured (store : Store) (index : Index) (room : Nat) (a : Adapter) : Prop where
  /-- After the change, and after any searches that follow it, a query is answered as by a fresh
  adapter with the new policy, unless its answer is outdated. -/
  fresh_iff : ∀ policy later query,
    (((a.withPolicy policy).after later).search query).1 =
        ((opened store index policy room).search query).1 ↔
      ¬ ((a.withPolicy policy).after later).Outdated query
  /-- If it is, the query is answered as if dangling hits might be skipped, and should fail. -/
  outdated : ∀ policy later query, ((a.withPolicy policy).after later).Outdated query →
    ∃ found reference, (((a.withPolicy policy).after later).search query).1 = .ok found ∧
      ((opened store index .skip room).search query).1 = .ok found ∧
      ((opened store index .fail room).search query).1 = .error (.danglingReference reference)
  /-- Outdated is the answer to every query with a dangling hit that was searched for when hits were
  skipped, right before they may be skipped no more. -/
  repeated : ∀ query, Dangles store index query → 0 < a.recent.capacity →
    (((a.withPolicy .skip).search query).2.withPolicy .fail).Outdated query

/-- The laws of a change of the policy hold for any adapter that remembers lenient answers. -/
lemma Lenient.reconfigured (h : a.Lenient) (room : Nat) :
    Reconfigured a.store a.index room a := by
  have changed (policy : DanglingPolicy) (later : List String) :
      ((a.withPolicy policy).after later).Lenient ∧
        SameSource ((a.withPolicy policy).after later) (a.withPolicy policy) :=
    Lenient.after (a := a.withPolicy policy) h later
  constructor
  case fresh_iff =>
    intro policy later query
    obtain ⟨lenient, source⟩ := changed policy later
    rw [← lenient.search_eq_iff, search_opened, source.resolve_eq, source.matchesOf_eq]
    rfl
  case outdated =>
    intro policy later query outdated
    obtain ⟨lenient, source⟩ := changed policy later
    obtain ⟨found, reference, ok, skipped, failed⟩ := lenient.search_of_outdated outdated
    have again (other : DanglingPolicy) :
        SameSource (((a.withPolicy policy).after later).withPolicy other) (a.withPolicy other) :=
      ⟨source.store, source.index, rfl⟩
    rw [(again _).resolve_eq, source.matchesOf_eq] at skipped failed
    refine ⟨found, reference, ok, ?_, ?_⟩
    · rw [search_opened]
      exact skipped
    · rw [search_opened]
      exact failed
  case repeated =>
    intro query dangles room
    have ⟨hits, ranked, _⟩ := dangles
    have resolved : (a.withPolicy .skip).resolve query = .ok (positions a.store hits) :=
      resolve_eq_positions ranked fun _ _ => .inl rfl
    have current : ¬ (a.withPolicy .skip).Outdated query := fun outdated => nomatch outdated.fail
    have searched : ((a.withPolicy .skip).search query).1 = _ :=
      Lenient.search_of_not_outdated (a := a.withPolicy .skip) h current
    rw [resolved] at searched
    have source := sameSource_search (a.withPolicy .skip) query
    refine ⟨rfl, search_recent_find? (a := a.withPolicy .skip) room searched, ?_⟩
    show Dangles ((a.withPolicy .skip).search query).2.store
      ((a.withPolicy .skip).search query).2.index query
    rw [source.store, source.index]
    exact dangles

/-- An adapter that remembers nothing remembers nothing else. -/
lemma lenient_opened (store : Store) (index : Index) (policy : DanglingPolicy) (capacity : Nat) :
    (opened store index policy capacity).Lenient :=
  nofun

/-- A change of the policy takes effect for all queries but those that are remembered and dangle,
whatever the adapter has been used for. -/
theorem reconfigured_used (store : Store) (index : Index) (policy : DanglingPolicy)
    (capacity room : Nat) (uses : List Use) :
    Reconfigured store index room ((opened store index policy capacity).used uses) := by
  obtain ⟨lenient, sameStore, sameIndex⟩ := (lenient_opened store index policy capacity).used uses
  have reconfigured := lenient.reconfigured room
  rwa [sameStore, sameIndex] at reconfigured

section departed

variable {url : String} {hits : List Hit}

/-- All hits of an index of one record are of its url, and a query that finds it has one. -/
lemma exists_search_only {boosts : Boosts} {r : Record} (finds : Index.Finds query.toList r) :
    ∃ hits, (Index.build boosts [r]).search query = .ok hits ∧ hits ≠ [] ∧
      ∀ hit ∈ hits, hit.reference = r.url := by
  obtain ⟨hits, ranked, first, mem, -⟩ : (Index.build boosts [r]).Returns query 0 :=
    Index.returns_build_iff.mpr ⟨by simp [Index.mostDocuments], r, rfl, finds⟩
  refine ⟨hits, ranked, List.ne_nil_of_mem mem, fun hit mem' => ?_⟩
  obtain ⟨d, -, at', -⟩ := exists_mem_of_forall₂ (Index.search_eq_ok_iff.mp ranked).flip mem'
  obtain ⟨r', memR, same⟩ := Index.mem_of_mem_refs_build (List.mem_of_getElem? at')
  rw [← same, List.mem_singleton.mp memR]

/-- Where no record has the url of the hits, a query finds nothing or fails, by the policy. -/
lemma resolve_of_departed (ranked : a.index.search query = .ok hits) (some : hits ≠ [])
    (all : ∀ hit ∈ hits, hit.reference = url) (absent : ¬ a.store.Holds url) :
    a.resolve query =
      match a.policy with
      | .skip => .ok []
      | .fail => .error (.danglingReference url) := by
  cases policy : a.policy with
  | skip =>
    have nothing : positions a.store hits = [] := by
      rw [positions, List.filterMap_eq_nil_iff]
      intro hit mem
      rw [all hit mem, Store.positionOf?_eq_none_iff.mpr absent, Option.map_none]
    rw [resolve_eq_positions ranked fun _ _ => .inl policy, nothing]
  | fail =>
    obtain ⟨first, rest, rfl⟩ := List.exists_cons_of_ne_nil some
    have same := all first List.mem_cons_self
    have atOnce : a.index.search query = .ok ([] ++ first :: rest) := ranked
    rw [resolve_eq_danglingReference atOnce policy (List.forall_mem_nil _) (by rwa [same]), same]

end departed

/-- A query that was answered while dangling hits were skipped is answered so again when they may be
skipped no more, and a fresh adapter fails on it: the page that it finds has left the site. -/
theorem not_failed_of_remembered :
    let store : Store := .ofDistinct [⟨"Guide", "", "/guide/"⟩] (by decide) (by decide)
    let index := Index.build .default [⟨"Gone", "", "/gone/"⟩]
    let a := ((opened store index .skip 1).search "Gone").2
    ((opened store index .skip 1).search "Gone").1 = .ok [] ∧
      ((a.withPolicy .fail).search "Gone").1 = .ok [] ∧
      ((opened store index .fail 1).search "Gone").1 = .error (.danglingReference "/gone/") := by
  intro store index a
  have absent : ¬ store.Holds "/gone/" := by decide
  have finds : Index.Finds "Gone".toList ⟨"Gone", "", "/gone/"⟩ :=
    Index.finds_title (r := ⟨"Gone", "", "/gone/"⟩) (c := 'G') (by decide) (by decide)
  obtain ⟨hits, ranked, some, gone⟩ : ∃ hits, index.search "Gone" = .ok hits ∧ hits ≠ [] ∧
      ∀ hit ∈ hits, hit.reference = "/gone/" := exists_search_only finds
  have resolved (policy : DanglingPolicy) :=
    resolve_of_departed (a := opened store index policy 1) ranked some gone absent
  have skipped : ((opened store index .skip 1).search "Gone").1 = .ok [] := by
    rw [((faithful_opened store index .skip 1).search "Gone").1, resolved]
    rfl
  have failed : ((opened store index .fail 1).search "Gone").1 =
      .error (.danglingReference "/gone/") := by
    rw [((faithful_opened store index .fail 1).search "Gone").1, resolved]
    rfl
  -- The first search is made while hits may be skipped, and the change outdates its answer.
  have start : (opened store index .skip 1).Lenient := lenient_opened store index .skip 1
  obtain ⟨hit, mem⟩ := List.exists_mem_of_ne_nil hits some
  have dangles : Dangles store index "Gone" := ⟨hits, ranked, hit, mem, by rwa [gone hit mem]⟩
  have outdated : (a.withPolicy .fail).Outdated "Gone" :=
    (start.reconfigured 1).repeated "Gone" dangles Nat.one_pos
  have lenient : (a.withPolicy .fail).Lenient := (start.search "Gone").2
  obtain ⟨found, -, ok, same, -⟩ := lenient.search_of_outdated outdated
  have source := sameSource_search (opened store index .skip 1) "Gone"
  rw [← search_opened _ _ 1, show (a.withPolicy .fail).store = store from source.store,
    show (a.withPolicy .fail).index = index from source.index, skipped] at same
  cases same
  exact ⟨skipped, ok, failed⟩

end Adapter
end PageSearch
