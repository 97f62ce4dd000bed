/-!
# Recent queries

The answers to recent queries, latest first, of at most a given number of queries. Looking an answer
up makes its query the latest one; a new query pushes out the one that was not used for longest.
A capacity of zero remembers nothing.
-/

namespace PageSearch

/-- Answers to at most `capacity` different queries, the latest first. -/
structure Recent (α : Type) where
  capacity : Nat
  entries : List (String × α)
  length_le : entries.length ≤ capacity
  keys_nodup : (entries.map (·.1)).Nodup

namespace Recent

variable {α : Type}

def empty (capacity : Nat) : Recent α :=
  ⟨capacity, [], Nat.zero_le _, .nil⟩

/-- The entries for other queries than this one. -/
def others (query : String) (entries : List (String × α)) : List (String × α) :=
  entries.filter (·.1 != query)

/-- An entry in front of those for other queries leaves every query one entry. -/
theorem keys_nodup_latest {query : String} {a : α} {entries : List (String × α)}
    (h : (entries.map (·.1)).Nodup) (n : Nat) :
    ((((query, a) :: others query entries).take n).map (·.1)).Nodup := by
  rw [List.map_take]
  refine List.Nodup.sublist (List.take_sublist _ _) ?_
  simp only [List.map_cons, List.nodup_cons]
  refine ⟨?_, h.sublist ((List.filter_sublist (l := entries)).map _)⟩
  simp [others]

/-- The answer to a query. -/
def find? (r : Recent α) (query : String) : Option α :=
  r.entries.lookup query

/-- Remembers the answer to a query, which becomes the latest. -/
def put (r : Recent α) (query : String) (a : α) : Recent α where
  capacity := r.capacity
  entries := ((query, a) :: others query r.entries).take r.capacity
  length_le := List.length_take_le _ _
  keys_nodup := keys_nodup_latest r.keys_nodup _

/-- Looks a query up, which makes it the latest if there is an answer to it. -/
def get (r : Recent α) (query : String) : Option α × Recent α :=
  match r.find? query with
  | some a => (some a, r.put query a)
  | none => (none, r)

end Recent

end PageSearch
