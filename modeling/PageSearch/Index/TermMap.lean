/-!
# Maps from hashes

A finite map whose keys are 64-bit hashes, as a list of entries with ascending keys. A map has only
one such list, so that two maps with the same look-ups are equal.
-/

namespace PageSearch

/-- A finite map from hashes to values. -/
structure TermMap (α : Type) where
  entries : List (UInt64 × α)
  ascending : entries.Pairwise (fun a b => a.1.toNat < b.1.toNat)

namespace TermMap

variable {α β : Type}

/-- Changes the value of a key in a list of entries with ascending keys. -/
def updateEntries (key : UInt64) (f : Option α → α) : List (UInt64 × α) → List (UInt64 × α)
  | [] => [(key, f none)]
  | (k, a) :: rest =>
    if key.toNat < k.toNat then (key, f none) :: (k, a) :: rest
    else if k = key then (k, f (some a)) :: rest
    else (k, a) :: updateEntries key f rest

/-- A change adds no other key, and leaves the entries of other keys as they are. -/
theorem mem_updateEntries {key : UInt64} {f : Option α → α} {l : List (UInt64 × α)}
    {e : UInt64 × α} (h : e ∈ updateEntries key f l) : e.1 = key ∨ e ∈ l := by
  induction l with
  | nil => simp_all [updateEntries]
  | cons x rest ih =>
    obtain ⟨k, a⟩ := x
    unfold updateEntries at h
    split at h
    · simp only [List.mem_cons] at h ⊢
      rcases h with rfl | h
      · exact .inl rfl
      · exact .inr h
    · split at h
      · simp only [List.mem_cons] at h ⊢
        rcases h with rfl | h
        · rename_i e
          exact .inl e
        · exact .inr (.inr h)
      · simp only [List.mem_cons] at h ⊢
        rcases h with rfl | h
        · exact .inr (.inl rfl)
        · exact (ih h).imp id .inr

/-- A change keeps the keys in ascending order. -/
theorem updateEntries_ascending {key : UInt64} {f : Option α → α} {l : List (UInt64 × α)}
    (h : l.Pairwise (fun a b => a.1.toNat < b.1.toNat)) :
    (updateEntries key f l).Pairwise (fun a b => a.1.toNat < b.1.toNat) := by
  induction l with
  | nil => simp [updateEntries]
  | cons x rest ih =>
    obtain ⟨k, a⟩ := x
    obtain ⟨lower, ascending⟩ := List.pairwise_cons.mp h
    unfold updateEntries
    split
    · rename_i before
      refine List.pairwise_cons.mpr ⟨fun e mem => ?_, h⟩
      rcases List.mem_cons.mp mem with rfl | mem
      · exact before
      · exact Nat.lt_trans before (lower e mem)
    · split
      · exact List.pairwise_cons.mpr ⟨lower, ascending⟩
      · rename_i notBefore other
        refine List.pairwise_cons.mpr ⟨fun e mem => ?_, ih ascending⟩
        rcases mem_updateEntries mem with same | mem
        · have : k.toNat ≠ key.toNat := fun e => other (UInt64.toNat_inj.mp e)
          simp only [same]
          omega
        · exact lower e mem

def empty : TermMap α := ⟨[], .nil⟩

instance : Inhabited (TermMap α) := ⟨empty⟩

/-- The value of a key. -/
def get? (m : TermMap α) (key : UInt64) : Option α :=
  m.entries.lookup key

/-- Changes the value of a key. -/
def update (m : TermMap α) (key : UInt64) (f : Option α → α) : TermMap α :=
  ⟨updateEntries key f m.entries, updateEntries_ascending m.ascending⟩

/-- Gives a key a value, in place of the one it had. -/
def insert (m : TermMap α) (key : UInt64) (a : α) : TermMap α :=
  m.update key fun _ => a

/-- Changes every value. -/
def map (f : α → β) (m : TermMap α) : TermMap β :=
  ⟨m.entries.map fun e => (e.1, f e.2), List.pairwise_map.mpr m.ascending⟩

def size (m : TermMap α) : Nat :=
  m.entries.length

/-- A map is its entries. -/
theorem ext_entries {m n : TermMap α} (h : m.entries = n.entries) : m = n := by
  cases m
  cases n
  simp_all

/-- A change is seen under its own key, and only there. -/
theorem lookup_updateEntries {key k : UInt64} {f : Option α → α} {l : List (UInt64 × α)}
    (h : l.Pairwise (fun a b => a.1.toNat < b.1.toNat)) :
    (updateEntries key f l).lookup k = if k = key then some (f (l.lookup key)) else l.lookup k := by
  induction l with
  | nil =>
    by_cases e : k = key
    · simp [updateEntries, e]
    · simp [updateEntries, List.lookup_cons, e, beq_eq_false_iff_ne.mpr e]
  | cons x rest ih =>
    obtain ⟨k', a⟩ := x
    obtain ⟨lower, ascending⟩ := List.pairwise_cons.mp h
    unfold updateEntries
    split
    · rename_i before
      have absent : ((k', a) :: rest).lookup key = none := by
        refine List.lookup_eq_none_iff.mpr fun e mem => ?_
        have : key.toNat < e.1.toNat := by
          rcases List.mem_cons.mp mem with rfl | mem
          · exact before
          · exact Nat.lt_trans before (lower e mem)
        simp only [bne_iff_ne, ne_eq]
        intro e
        rw [e] at this
        omega
      rw [absent, List.lookup_cons]
      by_cases e : k = key
      · simp [e]
      · simp [e, beq_eq_false_iff_ne.mpr e]
    · split
      · rename_i same
        subst same
        by_cases e : k = k'
        · simp [e]
        · simp [List.lookup_cons, e, beq_eq_false_iff_ne.mpr e]
      · rename_i other
        by_cases e : k = k'
        · subst e
          simp [other]
        · simp only [List.lookup_cons, beq_eq_false_iff_ne.mpr e,
            beq_eq_false_iff_ne.mpr (Ne.symm other)]
          exact ih ascending

/-- What is found after a change: the changed value under its key, the old ones under others. -/
theorem get?_update (m : TermMap α) (key k : UInt64) (f : Option α → α) :
    (m.update key f).get? k = if k = key then some (f (m.get? key)) else m.get? k :=
  lookup_updateEntries m.ascending

end TermMap

end PageSearch
