import PageSearch.Proofs.Store.Position

/-!
# Building a store

A list of records becomes a store if its urls can be keys: none is empty and no two are equal. The
store then holds the records in their order, and leads from a url to the one position that has it.
Any other list is refused with what is wrong at the first position where something is wrong, also
where empty urls and repeated ones are mixed.
-/

namespace PageSearch
namespace Store

/-- The urls of some records can be their keys. -/
structure Keyed (records : List Record) : Prop where
  url_ne : ∀ r ∈ records, r.url ≠ ""
  urls_nodup : (records.map Record.url).Nodup

/-- The record at a position has no url. -/
def EmptyAt (records : List Record) (p : Nat) : Prop :=
  ∃ r, records[p]? = some r ∧ r.url = ""

/-- The record at a position has the url of an earlier one. -/
def RepeatedAt (records : List Record) (first p : Nat) : Prop :=
  first < p ∧ ∃ r s, records[first]? = some r ∧ records[p]? = some s ∧ r.url = s.url

/-- Something is wrong with the url at a position. -/
def FaultyAt (records : List Record) (p : Nat) : Prop :=
  EmptyAt records p ∨ ∃ first, RepeatedAt records first p

/-- A position is the first at which something is wrong, and that is a fault there. -/
structure FirstFault (records : List Record) (p : Nat) (fault : StoreError) : Prop where
  faulty : FaultyAt records p
  least : ∀ q < p, ¬ FaultyAt records q
  empty : EmptyAt records p → fault = .emptyUrl p
  /-- A url that is not empty has been seen at one earlier position, and at no other. -/
  repeated : ¬ EmptyAt records p → ∃ first r, records[p]? = some r ∧
    fault = .duplicateUrl r.url first p ∧ ∀ q, RepeatedAt records q p ↔ q = first

section loop

variable {records before rest : List Record} {r : Record}

/-- Records whose urls can be keys have nothing wrong with them at any position. -/
lemma Keyed.not_faultyAt (h : Keyed records) (p : Nat) : ¬ FaultyAt records p := by
  intro faulty
  rcases faulty with ⟨r, atp, none⟩ | ⟨first, lt, r, s, atq, atp, same⟩
  · exact h.url_ne r (List.mem_of_getElem? atp) none
  · obtain ⟨bound, -⟩ := List.getElem?_eq_some_iff.mp atq
    -- A list without repetitions has a url at one position only.
    have eq : first = p := by
      apply (List.getElem?_inj (by simpa using bound) h.urls_nodup).mp
      simp [atq, atp, same]
    omega

/-- What is wrong at a position does not depend on the records after it. -/
lemma faultyAt_append_iff {p : Nat} (lt : p < before.length) :
    FaultyAt (before ++ rest) p ↔ FaultyAt before p := by
  have here : (before ++ rest)[p]? = before[p]? := List.getElem?_append_left lt
  have earlier (first : Nat) :
      RepeatedAt (before ++ rest) first p ↔ RepeatedAt before first p := by
    refine and_congr_right fun le => ?_
    rw [here, List.getElem?_append_left (Nat.lt_trans le lt)]
  simp only [FaultyAt, EmptyAt, here, earlier]

/-- Before a list goes on, none of its records is at fault in the whole. -/
lemma Keyed.least (h : Keyed before) (rest : List Record) :
    ∀ q < before.length, ¬ FaultyAt (before ++ rest) q := by
  intro q lt faulty
  exact h.not_faultyAt q ((faultyAt_append_iff lt).mp faulty)

/-- The records of a store have keys. -/
lemma keyed (store : Store) : Keyed store.records :=
  ⟨store.url_ne, store.urls_nodup⟩

/-- The first record without a url is the first fault. -/
lemma Keyed.firstFault_emptyUrl (h : Keyed before) (none : r.url = "") :
    FirstFault (before ++ r :: rest) before.length (.emptyUrl before.length) := by
  have here : EmptyAt (before ++ r :: rest) before.length := ⟨r, by simp, none⟩
  exact ⟨.inl here, h.least _, fun _ => rfl, fun other => absurd here other⟩

/-- The first record whose url is in the map already is the first fault, and the map has the one
position where the url was seen. -/
lemma firstFault_duplicateUrl {store : Store} (ne : r.url ≠ "") {first : Nat}
    (seen : store.positionOf? r.url = some first) :
    FirstFault (store.records ++ r :: rest) store.records.length
      (.duplicateUrl r.url first store.records.length) := by
  have here : (store.records ++ r :: rest)[store.records.length]? = some r := by simp
  have repeated_iff (q : Nat) :
      RepeatedAt (store.records ++ r :: rest) q store.records.length ↔ q = first := by
    constructor
    · rintro ⟨lt, s, r', atq, atp, same⟩
      rw [here] at atp
      cases atp
      rw [List.getElem?_append_left lt] at atq
      -- The map is inverse to the records, so it leads the url to this position.
      have leads := positionOf?_eq_some_iff.mpr ⟨s, atq, same⟩
      exact Option.some.inj (leads.symm.trans seen)
    · rintro rfl
      obtain ⟨s, atq, same⟩ := positionOf?_eq_some_iff.mp seen
      have lt : q < store.records.length := (List.getElem?_eq_some_iff.mp atq).1
      refine ⟨lt, s, r, ?_, here, same⟩
      rw [List.getElem?_append_left lt, atq]
  have filled : ¬ EmptyAt (store.records ++ r :: rest) store.records.length := by
    rintro ⟨s, at', none⟩
    rw [here] at at'
    cases at'
    exact ne none
  exact ⟨.inr ⟨first, (repeated_iff first).mpr rfl⟩, store.keyed.least _,
    fun empty => absurd empty filled, fun _ => ⟨first, r, here, rfl, repeated_iff⟩⟩

/-- What adding a record comes to. -/
lemma add_cases (store : Store) (r : Record) :
    (r.url = "" ∧ store.add r = .error (.emptyUrl store.records.length)) ∨
      (∃ first, r.url ≠ "" ∧ store.positionOf? r.url = some first ∧
        store.add r = .error (.duplicateUrl r.url first store.records.length)) ∨
      ∃ store', store'.records = store.records ++ [r] ∧ store.add r = .ok store' := by
  unfold add
  split
  case isTrue none => exact .inl ⟨none, rfl⟩
  case isFalse ne =>
    split
    case h_1 first seen => exact .inr (.inl ⟨first, ne, seen, rfl⟩)
    case h_2 vacant => exact .inr (.inr ⟨store.concat r ne vacant, rfl, rfl⟩)

/-- Records are added one after the other, until one is refused. -/
lemma foldlM_add_cases (store : Store) (rest : List Record) :
    (∃ store', rest.foldlM add store = .ok store' ∧ store'.records = store.records ++ rest) ∨
      ∃ fault p, rest.foldlM add store = .error fault ∧
        FirstFault (store.records ++ rest) p fault := by
  -- What has been added is a store again, so its map is inverse to it before every record.
  induction rest generalizing store with
  | nil => exact .inl ⟨store, rfl, (List.append_nil _).symm⟩
  | cons r rest ih =>
    rw [List.foldlM_cons]
    rcases store.add_cases r with ⟨none, refused⟩ | ⟨first, ne, seen, refused⟩ |
      ⟨store', grown, added⟩
    · rw [refused]
      exact .inr ⟨_, _, rfl, store.keyed.firstFault_emptyUrl none⟩
    · rw [refused]
      exact .inr ⟨_, _, rfl, firstFault_duplicateUrl ne seen⟩
    · rw [added, List.append_cons, ← grown]
      exact ih store'

end loop

/-- What building a store from records comes to. -/
structure Constructed (records : List Record) (result : Except StoreError Store) : Prop where
  accepted_iff : (∃ store, result = .ok store) ↔ Keyed records
  kept : ∀ store, result = .ok store → store.records = records
  /-- A url leads to a position in the list exactly if the record there has it. -/
  positionOf? : ∀ store, result = .ok store → ∀ url p,
    store.positionOf? url = some p ↔ ∃ r, records[p]? = some r ∧ r.url = url
  /-- The record that a url leads to is the one at that position. -/
  find? : ∀ store, result = .ok store → ∀ url r,
    store.find? url = some r ↔ ∃ p, store.positionOf? url = some p ∧ records[p]? = some r
  refused : ∀ fault, result = .error fault → ∃ p, FirstFault records p fault

/-- To build a store gives one with these records, or their first fault. -/
lemma ofRecords_cases (records : List Record) :
    (∃ store, ofRecords records = .ok store ∧ store.records = records) ∨
      ∃ fault p, ofRecords records = .error fault ∧ FirstFault records p fault :=
  foldlM_add_cases empty records

/-- Records with urls of their own make a store. -/
lemma Keyed.exists_ofRecords {records : List Record} (h : Keyed records) :
    ∃ store, ofRecords records = .ok store ∧ store.records = records := by
  rcases ofRecords_cases records with accepted | ⟨fault, p, -, first⟩
  · exact accepted
  · exact absurd first.faulty (h.not_faultyAt p)

/-- A list of records becomes a store with these records at their positions, or it is refused with
its first fault. -/
theorem constructed_ofRecords (records : List Record) :
    Constructed records (ofRecords records) := by
  rcases ofRecords_cases records with ⟨store, ok, same⟩ | ⟨fault, p, error, first⟩
  · subst same
    rw [ok]
    constructor
    case accepted_iff => exact ⟨fun _ => store.keyed, fun _ => ⟨store, rfl⟩⟩
    case kept =>
      intro other eq
      cases eq
      rfl
    case positionOf? =>
      intro other eq url p
      cases eq
      exact positionOf?_eq_some_iff
    case find? =>
      intro other eq url r
      cases eq
      exact Option.bind_eq_some_iff
    case refused => exact nofun
  · rw [error]
    constructor
    case accepted_iff => exact ⟨nofun, fun keyed => absurd first.faulty (keyed.not_faultyAt p)⟩
    case refused =>
      intro other eq
      cases eq
      exact ⟨p, first⟩
    all_goals exact nofun

example : ofRecords [⟨"A", "", "/a/"⟩, ⟨"B", "", "/b/"⟩, ⟨"C", "", "/b/"⟩, ⟨"D", "", ""⟩] =
    .error (.duplicateUrl "/b/" 1 2) := rfl

end Store
end PageSearch
