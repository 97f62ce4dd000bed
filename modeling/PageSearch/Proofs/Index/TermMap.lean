import Mathlib.Tactic.Lemma
import PageSearch.Index.TermMap

/-!
# Maps that are filled key by key

What a map holds under a key after a sequence of updates depends on the updates of that key alone,
in their order. A map is thus read back without looking at the list of entries it is kept as.
-/

namespace PageSearch

/-- Lists in ascending order with the same members are equal. -/
lemma eq_of_ascending {α : Type} (f : α → Nat) {l l' : List α}
    (ascending : l.Pairwise fun a b => f a < f b) (ascending' : l'.Pairwise fun a b => f a < f b)
    (same : ∀ a, a ∈ l ↔ a ∈ l') : l = l' := by
  have nodup {l : List α} (ascending : l.Pairwise fun a b => f a < f b) : l.Nodup := by
    refine ascending.imp ?_
    intro a b lt eq
    rw [eq] at lt
    exact Nat.lt_irrefl _ lt
  have perm : l.Perm l' :=
    (List.perm_ext_iff_of_nodup (nodup ascending) (nodup ascending')).mpr same
  refine perm.eq_of_pairwise ?_ ascending ascending'
  intro a b _ _ lt gt
  exact absurd gt (Nat.lt_asymm lt)

namespace TermMap

variable {α β γ : Type}

/-- Nothing is found in an empty map. -/
@[simp] lemma get?_empty (key : UInt64) : (empty : TermMap α).get? key = none := rfl

/-- What is found in a changed map is what was found, changed. -/
@[simp] lemma get?_map (f : α → β) (m : TermMap α) (key : UInt64) :
    (m.map f).get? key = (m.get? key).map f := by
  obtain ⟨entries, ascending⟩ := m
  simp only [get?, map]
  clear ascending
  induction entries with
  | nil => rfl
  | cons e rest ih =>
    obtain ⟨k, a⟩ := e
    simp only [List.map_cons, List.lookup_cons, ih]
    split <;> rfl

/-- The entries of a key in a list with ascending keys: the one that is found, if there is one. -/
lemma filter_entries {l : List (UInt64 × α)}
    (ascending : l.Pairwise (fun a b => a.1.toNat < b.1.toNat)) (key : UInt64) :
    l.filter (·.1 == key) = (l.lookup key).toList.map fun a => (key, a) := by
  induction l with
  | nil => rfl
  | cons e rest ih =>
    obtain ⟨k, a⟩ := e
    obtain ⟨lower, ascending⟩ := List.pairwise_cons.mp ascending
    by_cases same : k = key
    · subst same
      have none : rest.filter (·.1 == k) = [] := by
        apply List.filter_eq_nil_iff.mpr
        intro e mem eq
        have := lower e mem
        rw [beq_iff_eq.mp eq] at this
        exact Nat.lt_irrefl _ this
      simp [none]
    · simp [List.lookup_cons, same, beq_eq_false_iff_ne.mpr (Ne.symm same), ih ascending]

/-- What is found under a key after a sequence of updates: the updates of that key, in order. -/
lemma get?_foldl_update (key : β → UInt64) (f : β → Option α → α) (l : List β) (m : TermMap α)
    (k : UInt64) :
    (l.foldl (fun m x => m.update (key x) (f x)) m).get? k =
      (l.filter (key · == k)).foldl (fun found x => some (f x found)) (m.get? k) := by
  induction l generalizing m with
  | nil => rfl
  | cons x rest ih =>
    rw [List.foldl_cons, ih, get?_update]
    by_cases same : key x = k
    · simp [same]
    · simp [same, Ne.symm same]

/-- After some changes there is a value if there was one or anything was changed. -/
lemma isSome_foldl_some (f : β → Option α → α) (l : List β) (found : Option α) :
    (l.foldl (fun found x => some (f x found)) found).isSome = (found.isSome || !l.isEmpty) := by
  induction l generalizing found with
  | nil => simp
  | cons x rest ih => simp [ih]

/-- A key is found after a sequence of updates if one of them was of that key, or if it was found
before. -/
lemma isSome_get?_foldl_update (key : β → UInt64) (f : β → Option α → α) (l : List β)
    (m : TermMap α) (k : UInt64) :
    ((l.foldl (fun m x => m.update (key x) (f x)) m).get? k).isSome = true ↔
      (m.get? k).isSome = true ∨ ∃ x ∈ l, key x = k := by
  rw [get?_foldl_update, isSome_foldl_some]
  simp only [Bool.or_eq_true, Bool.not_eq_true', List.isEmpty_eq_false_iff_exists_mem,
    List.mem_filter, beq_iff_eq]

/-- An entry of a map is a key with the value that is found under it. -/
lemma mem_entries_iff {m : TermMap α} {e : UInt64 × α} :
    e ∈ m.entries ↔ m.get? e.1 = some e.2 := by
  obtain ⟨k, a⟩ := e
  have filtered : (k, a) ∈ m.entries.filter (·.1 == k) ↔ (k, a) ∈ m.entries := by simp
  rw [← filtered, filter_entries m.ascending]
  simp [get?]

/-- No key has two entries. -/
lemma nodup_keys (m : TermMap α) : (m.entries.map Prod.fst).Nodup := by
  refine List.pairwise_map.mpr (m.ascending.imp ?_)
  intro a b lt eq
  rw [eq] at lt
  exact Nat.lt_irrefl _ lt

/-- A key has an entry if it has a value. -/
lemma mem_keys_iff {m : TermMap α} {key : UInt64} :
    key ∈ m.entries.map Prod.fst ↔ (m.get? key).isSome = true := by
  rw [List.mem_map, Option.isSome_iff_exists]
  constructor
  · intro h
    obtain ⟨e, mem, rfl⟩ := h
    exact ⟨e.2, mem_entries_iff.mp mem⟩
  · intro h
    obtain ⟨a, found⟩ := h
    exact ⟨(key, a), mem_entries_iff.mpr found, rfl⟩

/-- Maps with the same look-ups are equal. -/
lemma ext_get? {m n : TermMap α} (same : ∀ k, m.get? k = n.get? k) : m = n := by
  apply ext_entries
  apply eq_of_ascending (fun e : UInt64 × α => e.1.toNat) m.ascending n.ascending
  intro e
  rw [mem_entries_iff, mem_entries_iff, same]

/-- A map can be made again by inserting its entries in any order. -/
lemma foldl_insert_of_perm {m : TermMap α} {entries : List (UInt64 × α)}
    (perm : entries.Perm m.entries) :
    entries.foldl (fun m e => m.insert e.1 e.2) empty = m := by
  apply ext_get?
  intro k
  have inserted := get?_foldl_update (fun e : UInt64 × α => e.1) (fun e _ => e.2) entries empty k
  have own := perm.filter (·.1 == k)
  rw [filter_entries m.ascending] at own
  refine Eq.trans inserted ?_
  -- Of the entries only that of `k` counts, and there is at most one.
  simp only [get?]
  cases found : m.entries.lookup k with
  | none =>
    rw [found] at own
    rw [own.eq_nil]
    rfl
  | some a =>
    rw [found] at own
    rw [List.perm_singleton.mp own]
    rfl

end TermMap
end PageSearch
