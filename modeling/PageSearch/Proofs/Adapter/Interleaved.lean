import Mathlib.Tactic.Lemma
import PageSearch.Proofs.Adapter.Answers

/-!
# Searches that share an adapter

Any number of searches are under way on one adapter. Each is made of steps between which the others
may take theirs: it looks its query up among the recent ones, works the answer out if it is not
there, and remembers the answer. A schedule tells whose turn it is at each step, so that every order
of the steps is that of a schedule.

Whatever the schedule is, a search returns what it would return on an adapter that remembers
nothing, and it returns after three steps of its own at most. What is remembered in between is what
would be worked out again, and never more than there is room for.
-/

namespace PageSearch
namespace Interleaved

/-- How far a search has come. -/
inductive Stage where
  /-- It has not taken a step. -/
  | waiting
  /-- Its query was not among the recent ones. -/
  | missed
  /-- Its answer is worked out, but not remembered. -/
  | resolved (answer : Resolved)
  /-- It has returned. -/
  | returned (result : Except SearchError (List Match))

/-- A search for a query. -/
structure Call where
  query : String
  stage : Stage

/-- The next step of a search, if it has not returned. -/
def Call.advance (c : Call) (a : Adapter) : Call × Adapter :=
  match c.stage with
  | .waiting =>
    match a.look c.query with
    | (some answer, a) => (⟨c.query, .returned (.ok (a.matchesOf answer))⟩, a)
    | (none, a) => (⟨c.query, .missed⟩, a)
  | .missed =>
    match a.resolve c.query with
    | .ok answer => (⟨c.query, .resolved answer⟩, a)
    | .error e => (⟨c.query, .returned (.error e)⟩, a)
  | .resolved answer =>
    (⟨c.query, .returned (.ok (a.matchesOf answer))⟩, a.remember c.query answer)
  | .returned _ => (c, a)

/-- An adapter and the searches on it. -/
structure State where
  adapter : Adapter
  calls : List Call

/-- The searches for some queries before their first steps. -/
def start (a : Adapter) (queries : List String) : State :=
  ⟨a, queries.map (⟨·, .waiting⟩)⟩

namespace State

/-- One of the searches takes its next step. -/
def turn (s : State) (i : Nat) : State :=
  match s.calls[i]? with
  | some c => ⟨(c.advance s.adapter).2, s.calls.set i (c.advance s.adapter).1⟩
  | none => s

/-- The searches take their steps in the order of a schedule. -/
def run (s : State) (schedule : List Nat) : State :=
  schedule.foldl turn s

end State

/-- What a step of a search can be: from the search and the adapter before it to those after it. -/
inductive Step (a : Adapter) : Call → Call → Adapter → Prop where
  | found {query : String} {answer : Resolved} :
    a.recent.find? query = some answer →
    Step a ⟨query, .waiting⟩ ⟨query, .returned (.ok (a.matchesOf answer))⟩ (a.remember query answer)
  | missed {query : String} :
    a.recent.find? query = none → Step a ⟨query, .waiting⟩ ⟨query, .missed⟩ a
  | resolved {query : String} {answer : Resolved} :
    a.resolve query = .ok answer → Step a ⟨query, .missed⟩ ⟨query, .resolved answer⟩ a
  | failed {query : String} {e : SearchError} :
    a.resolve query = .error e → Step a ⟨query, .missed⟩ ⟨query, .returned (.error e)⟩ a
  | remembered {query : String} {answer : Resolved} :
    Step a ⟨query, .resolved answer⟩ ⟨query, .returned (.ok (a.matchesOf answer))⟩
      (a.remember query answer)
  | returned {query : String} {result : Except SearchError (List Match)} :
    Step a ⟨query, .returned result⟩ ⟨query, .returned result⟩ a

/-- A call that waits looks its query up, and either has its answer or goes on to resolve it. -/
lemma advance_waiting (a : Adapter) (query : String) :
    Call.advance ⟨query, .waiting⟩ a =
      match a.recent.find? query with
      | some answer => (⟨query, .returned (.ok (a.matchesOf answer))⟩, a.remember query answer)
      | none => (⟨query, .missed⟩, a) := by
  simp only [Call.advance, Adapter.look, Recent.get]
  cases a.recent.find? query <;> rfl

/-- What a call does next is one of its steps. -/
lemma step_advance (c : Call) (a : Adapter) : Step a c (c.advance a).1 (c.advance a).2 := by
  obtain ⟨query, stage⟩ := c
  cases stage with
  | waiting =>
    rw [advance_waiting]
    cases found : a.recent.find? query with
    | some answer => exact .found found
    | none => exact .missed found
  | missed =>
    simp only [Call.advance]
    cases resolved : a.resolve query with
    | ok answer => exact .resolved resolved
    | error e => exact .failed resolved
  | resolved answer => exact .remembered
  | returned result => exact .returned

/-- Three steps of a search between which no other takes one are the search as a whole. -/
theorem search_eq_advance (a : Adapter) (query : String) :
    let first := Call.advance ⟨query, .waiting⟩ a
    let second := first.1.advance first.2
    second.1.advance second.2 = (⟨query, .returned (a.search query).1⟩, (a.search query).2) := by
  rw [advance_waiting, Adapter.search_eq]
  cases a.recent.find? query with
  | some answer => rfl
  | none =>
    simp only [Call.advance]
    cases a.resolve query <;> rfl

/-- How many steps a search has before it at most. -/
def Stage.left : Stage → Nat
  | waiting => 3
  | missed => 2
  | resolved _ => 1
  | returned _ => 0

/-- A search that can return nothing but what an adapter would work out. -/
structure Call.Agrees (plain : Adapter) (c : Call) : Prop where
  resolved : ∀ answer, c.stage = .resolved answer → plain.resolve c.query = .ok answer
  returned : ∀ result, c.stage = .returned result →
    result = (plain.resolve c.query).map plain.matchesOf

/-- An adapter with so much room for recent queries that remembers nothing but what another one,
with the same source, would work out. -/
structure Sound (plain : Adapter) (capacity : Nat) (a : Adapter) : Prop where
  source : Adapter.SameSource a plain
  capacity : a.recent.capacity = capacity
  faithful : a.Faithful

section step

variable {plain a a' : Adapter} {capacity : Nat} {c c' : Call}

/-- A step does not change what is asked. -/
lemma Step.query_eq (step : Step a c c' a') : c'.query = c.query := by
  cases step <;> rfl

/-- Every step brings a search nearer to its return. -/
lemma Step.left_le (step : Step a c c' a') : c'.stage.left ≤ c.stage.left - 1 := by
  cases step <;> simp [Stage.left]

/-- A sound adapter works out what the plain one does. -/
lemma Sound.resolve_eq (sound : Sound plain capacity a) (query : String) :
    plain.resolve query = a.resolve query :=
  (sound.source.resolve_eq query).symm

/-- What a search would work out may be remembered, by whichever search that shares the adapter. -/
lemma Sound.remember (sound : Sound plain capacity a) {query : String} {answer : Resolved}
    (ok : plain.resolve query = .ok answer) : Sound plain capacity (a.remember query answer) where
  source := (Adapter.sameSource_remember a query answer).trans sound.source
  capacity := sound.capacity
  faithful := sound.faithful.remember ((sound.source.resolve_eq query).trans ok)

/-- A search may return an answer that the plain adapter would work out. -/
lemma Sound.agrees_ok (sound : Sound plain capacity a) {query : String} {answer : Resolved}
    (ok : plain.resolve query = .ok answer) :
    Call.Agrees plain ⟨query, .returned (.ok (a.matchesOf answer))⟩ where
  resolved := nofun
  returned := by
    intro result eq
    cases eq
    rw [ok, sound.source.matchesOf_eq]
    rfl

/-- A step keeps the adapter sound and its search in agreement. -/
lemma Step.sound (step : Step a c c' a') (sound : Sound plain capacity a)
    (agrees : c.Agrees plain) : Sound plain capacity a' ∧ c'.Agrees plain := by
  cases step with
  | found found =>
    -- What is remembered was worked out before, so it may be remembered again.
    have ok := sound.faithful _ (Recent.mem_of_find? found)
    rw [← sound.resolve_eq] at ok
    exact ⟨sound.remember ok, sound.agrees_ok ok⟩
  | missed => exact ⟨sound, ⟨nofun, nofun⟩⟩
  | resolved ok =>
    rw [← sound.resolve_eq] at ok
    refine ⟨sound, ?_, nofun⟩
    intro answer eq
    cases eq
    exact ok
  | failed error =>
    rw [← sound.resolve_eq] at error
    refine ⟨sound, nofun, ?_⟩
    intro result eq
    cases eq
    rw [error]
    rfl
  | remembered =>
    have ok := agrees.resolved _ rfl
    exact ⟨sound.remember ok, sound.agrees_ok ok⟩
  | returned => exact ⟨sound, agrees⟩

end step

/-- What is known after some turns of the searches for some queries. -/
structure Tracked (plain : Adapter) (capacity : Nat) (queries : List String) (turns : List Nat)
    (s : State) : Prop where
  sound : Sound plain capacity s.adapter
  queries : s.calls.map Call.query = queries
  agrees : ∀ c ∈ s.calls, c.Agrees plain
  left : ∀ i c, s.calls[i]? = some c → c.stage.left ≤ 3 - turns.count i

section tracked

variable {plain : Adapter} {capacity : Nat} {queries : List String} {turns : List Nat} {s : State}

/-- Before the first turn nothing has been returned or remembered. -/
lemma tracked_start {a : Adapter} (sound : Sound plain capacity a) (queries : List String) :
    Tracked plain capacity queries [] (start a queries) where
  sound := sound
  queries := by simp [start, Function.comp_def]
  agrees := by
    intro c mem
    obtain ⟨query, -, rfl⟩ := List.mem_map.mp mem
    exact ⟨nofun, nofun⟩
  left := by
    intro i c at'
    rw [start, List.getElem?_map, Option.map_eq_some_iff] at at'
    obtain ⟨query, -, rfl⟩ := at'
    exact Nat.le_refl 3

/-- A turn keeps what is known, whichever search it is that takes it. -/
lemma Tracked.turn (h : Tracked plain capacity queries turns s) (i : Nat) :
    Tracked plain capacity queries (turns ++ [i]) (s.turn i) := by
  unfold State.turn
  split
  · rename_i c here
    obtain ⟨inside, rfl⟩ := List.getElem?_eq_some_iff.mp here
    have step := step_advance s.calls[i] s.adapter
    obtain ⟨sound, agrees⟩ := step.sound h.sound (h.agrees _ (List.mem_of_getElem? here))
    constructor
    case sound => exact sound
    case queries =>
      rw [List.map_set, step.query_eq, ← List.map_set, List.set_getElem_self, h.queries]
    case agrees =>
      intro c' mem
      -- Only one search has moved, and what it can return is known from its step.
      cases List.mem_or_eq_of_mem_set mem with
      | inl old => exact h.agrees c' old
      | inr new =>
        rw [new]
        exact agrees
    case left =>
      intro j c' at'
      rw [List.count_append, List.count_singleton]
      -- The turn counts for the search that took it, and brings that one nearer to its return.
      by_cases same : i = j
      · subst same
        rw [List.getElem?_set_self inside] at at'
        cases at'
        have before := h.left i _ here
        have after := step.left_le
        simp only [beq_self_eq_true, if_true]
        omega
      · rw [List.getElem?_set_ne same] at at'
        simpa [same] using h.left j c' at'
  · -- There is no such search, so that nothing happens.
    rename_i absent
    refine ⟨h.sound, h.queries, h.agrees, ?_⟩
    intro j c at'
    have other : i ≠ j := by
      intro same
      rw [same, at'] at absent
      cases absent
    simpa [List.count_append, other] using h.left j c at'

/-- So a schedule keeps it. -/
lemma Tracked.run (h : Tracked plain capacity queries turns s) (schedule : List Nat) :
    Tracked plain capacity queries (turns ++ schedule) (s.run schedule) := by
  -- By the turns that are still to come, from a state that has taken those before.
  induction schedule generalizing turns s with
  | nil => simpa [State.run] using h
  | cons i rest ih => simpa [State.run] using ih (h.turn i)

/-- The searches stand in the order of their queries. -/
lemma Tracked.query_at (h : Tracked plain capacity queries turns s) (i : Nat) :
    queries[i]? = s.calls[i]?.map Call.query := by
  rw [← h.queries, List.getElem?_map]

/-- What a search has returned is what the plain adapter works out for its query. -/
lemma Tracked.returned (h : Tracked plain capacity queries turns s) {i : Nat} {query : String}
    {result : Except SearchError (List Match)}
    (at' : s.calls[i]? = some ⟨query, .returned result⟩) :
    queries[i]? = some query ∧ result = (plain.resolve query).map plain.matchesOf := by
  refine ⟨?_, (h.agrees _ (List.mem_of_getElem? at')).returned result rfl⟩
  rw [h.query_at, at']
  rfl

/-- A search that has had three turns has returned. -/
lemma Tracked.exists_returned (h : Tracked plain capacity queries turns s) {i : Nat}
    {query : String} (at' : queries[i]? = some query) (three : 3 ≤ turns.count i) :
    ∃ result, s.calls[i]? = some ⟨query, .returned result⟩ := by
  rw [h.query_at, Option.map_eq_some_iff] at at'
  obtain ⟨⟨query', stage⟩, here, rfl⟩ := at'
  have left := h.left i _ here
  cases stage with
  | returned result => exact ⟨result, here⟩
  | waiting | missed | resolved => simp [Stage.left] at left; omega

/-- What is remembered at any time is what the plain adapter works out. -/
lemma Tracked.remembered (h : Tracked plain capacity queries turns s) :
    ∀ e ∈ s.adapter.recent.entries, plain.resolve e.1 = .ok e.2 := by
  intro e mem
  rw [h.sound.resolve_eq]
  exact h.sound.faithful e mem

/-- A query that fails is not remembered. -/
lemma Tracked.forgotten (h : Tracked plain capacity queries turns s) {query : String}
    {e : SearchError} (error : (plain.resolve query).map plain.matchesOf = .error e) :
    s.adapter.recent.find? query = none := by
  cases found : s.adapter.recent.find? query with
  | none => rfl
  | some answer =>
    rw [h.remembered _ (Recent.mem_of_find? found)] at error
    cases error

end tracked

/-- Searches for some queries, of which as many steps have been taken as a schedule says, do not
notice that they share an adapter which remembers answers. -/
structure Transparent (plain : Adapter) (capacity : Nat) (queries : List String)
    (schedule : List Nat) (s : State) : Prop where
  /-- What a search has returned is what the adapter that remembers nothing returns, be it matches
  or an error. -/
  returned : ∀ (i : Nat) query result, s.calls[i]? = some ⟨query, .returned result⟩ →
    queries[i]? = some query ∧ result = (plain.search query).1
  /-- A search has returned when it has had three turns. -/
  returns : ∀ (i : Nat) query, queries[i]? = some query → 3 ≤ schedule.count i →
    s.calls[i]? = some ⟨query, .returned (plain.search query).1⟩
  /-- Every answer that is remembered is the one that would be worked out. -/
  remembered : ∀ e ∈ s.adapter.recent.entries, plain.resolve e.1 = .ok e.2
  /-- No query is remembered that fails. -/
  forgotten : ∀ query e, (plain.search query).1 = .error e → s.adapter.recent.find? query = none
  /-- No more queries are remembered than there is room for. -/
  bounded : s.adapter.recent.entries.length ≤ capacity

/-- Searches that share an adapter do not notice what it remembers, whatever the order of their
steps is. -/
theorem transparent_run (store : Store) (index : Index) (policy : DanglingPolicy) (capacity : Nat)
    (queries : List String) (schedule : List Nat) :
    Transparent ((Adapter.new store index).withPolicy policy) capacity queries schedule
      ((start (Adapter.opened store index policy capacity) queries).run schedule) := by
  have sound : Sound ((Adapter.new store index).withPolicy policy) capacity
      (Adapter.opened store index policy capacity) :=
    ⟨⟨rfl, rfl, rfl⟩, rfl, Adapter.faithful_opened store index policy capacity⟩
  have tracked := (tracked_start sound queries).run schedule
  -- The plain adapter has no room, so that it works every answer out.
  let plain := (Adapter.new store index).withPolicy policy
  have searched (query : String) :
      (plain.search query).1 = (plain.resolve query).map plain.matchesOf :=
    ((Adapter.faithful_opened store index policy 0).search query).1
  constructor
  case returned =>
    intro i query result at'
    obtain ⟨asked, eq⟩ := tracked.returned at'
    exact ⟨asked, eq.trans (searched query).symm⟩
  case returns =>
    intro i query at' three
    obtain ⟨result, here⟩ := tracked.exists_returned at' three
    rw [here, (tracked.returned here).2, searched]
  case remembered => exact tracked.remembered
  case forgotten =>
    intro query e error
    exact tracked.forgotten ((searched query).symm.trans error)
  case bounded => exact (Recent.length_le _).trans_eq tracked.sound.capacity

end Interleaved
end PageSearch
