import PageSearch.Adapter.Recent
import PageSearch.Index.Search
import PageSearch.Similarity
import PageSearch.Store.Basic

/-!
# Adapters

An adapter answers queries with records. It has the index rank urls and finds the record of each in
the store. Where the index ranks a url that no record has, the adapter's policy decides: the hit is
skipped, or the query fails. Resolved answers are remembered for recent queries, failures are not.

A search is made of three steps, between which other searches may come: it looks the query up among
the recent ones, resolves it if it is not there, and puts the answer there.
-/

namespace PageSearch

/-- What becomes of a hit whose url no record has. -/
inductive DanglingPolicy where
  /-- The hit is left out. -/
  | skip
  /-- The query fails. -/
  | fail
  deriving DecidableEq

/-- A record that a query found, and its score. -/
structure Match where
  record : Record
  score : Single
  deriving DecidableEq

/-- An answer as positions in the store with scores, best first. -/
abbrev Resolved := List (Nat × Single)

/-- A store and an index over it, with a policy and the recent queries. -/
structure Adapter where
  store : Store
  index : Index
  policy : DanglingPolicy
  recent : Recent Resolved

namespace Adapter

/-- An adapter that skips dangling hits and remembers nothing. -/
def new (store : Store) (index : Index) : Adapter :=
  ⟨store, index, .skip, .empty 0⟩

/-- Changes the policy. Answers that are remembered stay remembered. -/
def withPolicy (a : Adapter) (policy : DanglingPolicy) : Adapter :=
  { a with policy }

/-- Forgets all answers, and from now on remembers those to so many queries. -/
def withCapacity (a : Adapter) (capacity : Nat) : Adapter :=
  { a with recent := .empty capacity }

/-- What a hit contributes to an answer. -/
def place (a : Adapter) (hit : Hit) : Except SearchError Resolved :=
  match a.store.positionOf? hit.reference, a.policy with
  | some position, _ => .ok [(position, hit.score)]
  | none, .skip => .ok []
  | none, .fail => .error (.danglingReference hit.reference)

/-- The answer to a query, worked out from the index. -/
def resolve (a : Adapter) (query : String) : Except SearchError Resolved := do
  return (← (← a.index.search query).mapM a.place).flatten

/-- The records of an answer. -/
def matchesOf (a : Adapter) (answer : Resolved) : List Match :=
  answer.filterMap fun (position, score) => a.store.records[position]?.map (⟨·, score⟩)

/-- Looks a query up among the recent ones. -/
def look (a : Adapter) (query : String) : Option Resolved × Adapter :=
  ((a.recent.get query).1, { a with recent := (a.recent.get query).2 })

/-- Remembers the answer to a query. -/
def remember (a : Adapter) (query : String) (answer : Resolved) : Adapter :=
  { a with recent := a.recent.put query answer }

/-- The records that match a query, best first. -/
def search (a : Adapter) (query : String) : Except SearchError (List Match) × Adapter :=
  match a.look query with
  | (some answer, a) => (.ok (a.matchesOf answer), a)
  | (none, a) =>
    match a.resolve query with
    | .ok answer => (.ok (a.matchesOf answer), a.remember query answer)
    | .error e => (.error e, a)

/-- The record with a url. -/
def lookup (a : Adapter) (url : String) : Option Record :=
  a.store.find? url

/-- The records whose titles resemble a query, with their similarities, most similar first. -/
def nearMisses (a : Adapter) (query : String) : List (Float × Record) :=
  let scored := a.store.records.map fun r => (titleSimilarity query r.title, r)
  (scored.filter fun (s, _) => nearMissThreshold ≤ s).mergeSort fun (s, _) (t, _) => t ≤ s

/-- At most so many records whose titles resemble a query, most similar first. A blank query
resembles nothing. -/
def didYouMean (a : Adapter) (query : String) (most : Nat) : List Record :=
  if (Text.trim query.toList).isEmpty then []
  else ((a.nearMisses query).take most).map (·.2)

/-- The adapter in one line. -/
def describe (a : Adapter) : String :=
  let policy :=
    match a.policy with
    | .skip => "Skip"
    | .fail => "Fail"
  "QueryAdapter \x7b documents: " ++ Nat.repr a.store.size ++
    ", indexed: " ++ Nat.repr a.index.documentCount ++ ", policy: " ++ policy ++
    ", cached_queries: " ++ (if 0 < a.recent.capacity then "true" else "false") ++ " \x7d"

end Adapter

end PageSearch
