import Mathlib.Data.List.Nodup
import Mathlib.Tactic.Lemma
import PageSearch.Store.Basic

/-!
# Positions in a store

The url of a record leads to its position and to no other, so no two records share one. Any records
without an empty url and without two equal ones are those of a store.
-/

namespace PageSearch
namespace Store

variable {store : Store}

/-- A url is looked up as the position of the record that has it. -/
theorem positionOf?_eq_some_iff {url : String} {p : Nat} :
    store.positionOf? url = some p ↔ ∃ r, store.records[p]? = some r ∧ r.url = url :=
  store.inverse url p

/-- Records at two positions with one url are at one position. -/
lemma position_unique {p q : Nat} {r s : Record} (atp : store.records[p]? = some r)
    (atq : store.records[q]? = some s) (url : r.url = s.url) : p = q := by
  have toP := (store.inverse s.url p).mpr ⟨r, atp, url⟩
  have toQ := (store.inverse s.url q).mpr ⟨s, atq, rfl⟩
  exact Option.some.inj (toP.symm.trans toQ)

/-- The urls of the records are distinct, since each leads to one position. -/
lemma urls_nodup (store : Store) : (store.records.map Record.url).Nodup := by
  rw [List.nodup_iff_getElem?_ne_getElem?]
  intro p q lt bound same
  rw [List.length_map] at bound
  rw [List.getElem?_map, List.getElem?_map, List.getElem?_eq_getElem (Nat.lt_trans lt bound),
    List.getElem?_eq_getElem bound] at same
  have eq := position_unique (List.getElem?_eq_getElem (Nat.lt_trans lt bound))
    (List.getElem?_eq_getElem bound) (Option.some.inj same)
  omega

/-- The store of some records with distinct urls, each of which leads to where it is in the list. -/
def ofDistinct (records : List Record) (url_ne : ∀ r ∈ records, r.url ≠ "")
    (nodup : (records.map Record.url).Nodup) : Store where
  records := records
  positions := ⟨(records.map Record.url).zipIdx, by rwa [List.zipIdx_map_fst]⟩
  url_ne := url_ne
  inverse := by
    intro url p
    rw [UrlMap.find?_eq_some_iff, List.mk_mem_zipIdx_iff_getElem?, List.getElem?_map,
      Option.map_eq_some_iff]

end Store
end PageSearch
