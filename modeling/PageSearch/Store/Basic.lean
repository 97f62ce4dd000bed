import PageSearch.Record

/-!
# Stores

A store holds the records of a site in the order they were given, and a map from urls to positions
that is inverse to them. It is built by adding one record after the other. A record with an empty
url is refused, and so is one whose url the map already has; the first fault ends the building.
-/

namespace PageSearch

/-- What is wrong with a list of records. -/
inductive StoreError where
  /-- The record at `second` has the url of the one at `first`. -/
  | duplicateUrl (url : String) (first second : Nat)
  /-- The record at `position` has an empty url. -/
  | emptyUrl (position : Nat)
  deriving DecidableEq

def StoreError.message : StoreError → String
  | .duplicateUrl url first second => s!"Duplicate url '{url}' at positions {first} and {second}"
  | .emptyUrl position => s!"Record at position {position} has an empty url"

/-- A map from urls to positions, as a list of entries that has each url once. -/
structure UrlMap where
  entries : List (String × Nat)
  urls_nodup : (entries.map (·.1)).Nodup

namespace UrlMap

variable {m : UrlMap} {url : String} {p : Nat}

def empty : UrlMap := ⟨[], List.nodup_nil⟩

/-- The position that a url leads to. -/
def find? (m : UrlMap) (url : String) : Option Nat :=
  m.entries.lookup url

/-- A url leads to the position that it is entered with. -/
theorem find?_eq_some_iff : m.find? url = some p ↔ (url, p) ∈ m.entries := by
  rw [find?, List.lookup_eq_some_iff]
  constructor
  · rintro ⟨before, after, eq, -⟩
    rw [eq]
    exact List.mem_append_right _ List.mem_cons_self
  · intro mem
    obtain ⟨before, after, eq⟩ := List.append_of_mem mem
    refine ⟨before, after, eq, fun e mem' => ?_⟩
    have nodup := m.urls_nodup
    rw [eq, List.map_append, List.map_cons, List.nodup_append] at nodup
    -- An earlier entry for the url would be a second one.
    have other : e.1 ≠ url := nodup.2.2 e.1 (List.mem_map_of_mem mem') url List.mem_cons_self
    simpa using other.symm

/-- A url is vacant if no entry has it. -/
theorem find?_eq_none_iff : m.find? url = none ↔ ∀ e ∈ m.entries, e.1 ≠ url := by
  rw [find?, List.lookup_eq_none_iff]
  exact forall₂_congr fun e _ => by rw [bne_iff_ne, ne_comm]

/-- Enters a url that is vacant with its position. -/
def enter (m : UrlMap) (url : String) (p : Nat) (vacant : m.find? url = none) : UrlMap where
  entries := m.entries ++ [(url, p)]
  urls_nodup := by
    rw [List.map_append, List.nodup_append]
    refine ⟨m.urls_nodup, by simp, fun url' mem url'' mem' => ?_⟩
    obtain ⟨e, old, rfl⟩ := List.mem_map.mp mem
    rw [List.mem_singleton.mp mem']
    exact find?_eq_none_iff.mp vacant e old

/-- After that the url leads to the position, and every other url where it led before. -/
theorem find?_enter_eq_some_iff {vacant : m.find? url = none} {url' : String} {q : Nat} :
    (m.enter url p vacant).find? url' = some q ↔
      m.find? url' = some q ∨ url' = url ∧ q = p := by
  simp [find?_eq_some_iff, enter]

end UrlMap

/-- Records with non-empty and distinct urls, and the map by which they are found. -/
structure Store where
  records : List Record
  positions : UrlMap
  url_ne : ∀ r ∈ records, r.url ≠ ""
  /-- A url leads to a position exactly if the record there has it. -/
  inverse : ∀ url p, positions.find? url = some p ↔ ∃ r, records[p]? = some r ∧ r.url = url

namespace Store

def empty : Store :=
  ⟨[], .empty, by simp, by simp [UrlMap.find?, UrlMap.empty]⟩

def size (store : Store) : Nat :=
  store.records.length

/-- A record with a new url follows those of a store. -/
def concat (store : Store) (r : Record) (ne : r.url ≠ "")
    (vacant : store.positions.find? r.url = none) : Store where
  records := store.records ++ [r]
  positions := store.positions.enter r.url store.size vacant
  url_ne := by
    intro s mem
    rcases List.mem_append.mp mem with old | new
    · exact store.url_ne s old
    · rw [List.mem_singleton.mp new]
      exact ne
  inverse := by
    intro url p
    rw [UrlMap.find?_enter_eq_some_iff, store.inverse, List.getElem?_append]
    -- The new record stands where the old ones end, and nothing stands after it.
    split
    · rename_i old
      have other : p ≠ store.size := Nat.ne_of_lt old
      simp [other]
    · rename_i new
      rw [List.getElem?_eq_none (Nat.le_of_not_lt new), List.getElem?_singleton]
      by_cases last : p = store.size
      · simp [last, size, eq_comm]
      · have beyond : p - store.records.length ≠ 0 := by
          unfold size at last
          omega
        simp [last, beyond]

/-- Adds a record to a store, or tells what is wrong with its url. -/
def add (store : Store) (r : Record) : Except StoreError Store :=
  if ne : r.url = "" then .error (.emptyUrl store.size)
  else
    match vacant : store.positions.find? r.url with
    | some first => .error (.duplicateUrl r.url first store.size)
    | none => .ok (store.concat r ne vacant)

/-- The store with these records, or their first fault. -/
def ofRecords (records : List Record) : Except StoreError Store :=
  records.foldlM add empty

/-- The position of the record with a url. -/
def positionOf? (store : Store) (url : String) : Option Nat :=
  store.positions.find? url

/-- The record with a url. -/
def find? (store : Store) (url : String) : Option Record :=
  (store.positionOf? url).bind (store.records[·]?)

/-- The records that satisfy a predicate, in order. -/
def findAll (store : Store) (p : Record → Bool) : List Record :=
  store.records.filter p

end Store

end PageSearch
