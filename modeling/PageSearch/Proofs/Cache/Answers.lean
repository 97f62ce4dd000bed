import PageSearch.Cache.Basic
import PageSearch.Proofs.Cache.Folder
import PageSearch.Proofs.Index.Stored
import PageSearch.Proofs.Store.Position

/-!
# What a cache answers

The index of a store is the one that its file holds, if the file is usable, and otherwise the one
that is built. A folder in which every usable file holds the built index stays such a folder, so
that in a folder that was empty at first all the answers are the built indexes.
-/

namespace PageSearch
namespace Cache

section run

variable {order : EntryOrder} {writer : Nat} {key : UInt64} {index : Index} {store : Store}
  {boosts : Boosts} {d : Folder} {bytes : List UInt8}

/-- The index that a folder has for a key. -/
def cached? (d : Folder) (key : UInt64) : Option Index :=
  (d.read? (fileName key)).bind (usable? key)

/-- A file is usable if its bytes are those of an index of the present format under the key. -/
lemma usable?_eq_some_iff :
    usable? key bytes = some index ↔ Stored.ofBytes? bytes = some ⟨storedFormat, key, index⟩ := by
  unfold usable?
  split
  · rename_i s read
    obtain ⟨format, key', index'⟩ := s
    simp only [read, Option.ite_none_right_eq_some, Option.some.injEq, Stored.mk.injEq, and_assoc]
  · rename_i read
    simp [read]

/-- An empty file is of no use. -/
lemma usable?_nil : usable? key [] = none := rfl

/-- The number of the format can be read back. -/
lemma storedFormat_lt : storedFormat < 2 ^ 32 := by decide

/-- Storing an index does not change what is answered. -/
lemma keep_fst : ((keep Nat order writer key index).run d).1 = index := by
  simp only [keep, FileTask.run]
  split
  · simp only [FileTask.run]
    split
    · rfl
    · simp only [FileTask.run, Folder.write, if_true]
      split <;> rfl
  · rfl

/-- What storing an index leaves in the folder was there before, or is the stored index. -/
lemma holds_of_keep (h : ((keep Nat order writer key index).run d).2.Holds bytes) :
    d.Holds bytes ∨ bytes = [] ∨ bytes = Stored.bytes order ⟨storedFormat, key, index⟩ := by
  simp only [keep, FileTask.run] at h
  split at h
  case isFalse => exact .inl (Folder.holds_of_make h)
  simp only [FileTask.run] at h
  cases created : d.make.2.create (temporaryName key writer) with
  | mk file d₁ =>
    rw [created] at h
    cases file with
    | none =>
      have same := Folder.create_of_eq_none created
      subst same
      exact .inl (Folder.holds_of_make (Folder.holds_of_remove h))
    | some number =>
      -- The new file is written and renamed, and is removed if it cannot be renamed.
      have written : (d₁.write number (Stored.bytes order ⟨storedFormat, key, index⟩)).2.Holds
          bytes := by
        simp only [FileTask.run, Folder.write, if_true] at h
        split at h
        · exact Folder.holds_of_rename h
        · exact Folder.holds_of_rename (Folder.holds_of_remove h)
      cases Folder.holds_of_write (fun _ => Folder.eq_nil_of_create created) written with
      | inl before =>
        cases Folder.holds_of_create created before with
        | inl made => exact .inl (Folder.holds_of_make made)
        | inr empty => exact .inr (.inl empty)
      | inr stored => exact .inr (.inr stored)

/-- An index that is cached is the answer, and nothing is changed. -/
lemma run_loadOrBuildIn_of_cached (cached : cached? d (indexKey store boosts) = some index) :
    (loadOrBuildIn Nat order writer store boosts).run d = (index, d) := by
  obtain ⟨bytes, read, usable⟩ := Option.bind_eq_some_iff.mp cached
  simp only [loadOrBuildIn, FileTask.run, read, usable]

/-- Otherwise the index is built and stored, after a file that is not usable has been removed. -/
lemma run_loadOrBuildIn_of_not_cached (order : EntryOrder) (writer : Nat)
    (none : cached? d (indexKey store boosts) = none) :
    ∃ d', (d' = d ∨ d' = d.remove (fileName (indexKey store boosts))) ∧
      (loadOrBuildIn Nat order writer store boosts).run d =
        (keep Nat order writer (indexKey store boosts)
          (Index.build boosts store.records)).run d' := by
  unfold cached? at none
  cases read : d.read? (fileName (indexKey store boosts)) with
  | none =>
    refine ⟨d, .inl rfl, ?_⟩
    simp only [loadOrBuildIn, FileTask.run, read]
  | some bytes =>
    rw [read, Option.bind_some] at none
    refine ⟨_, .inr rfl, ?_⟩
    simp only [loadOrBuildIn, FileTask.run, read, none]

/-- The answer is the cached index, or the built one if none is cached. -/
lemma loadOrBuildIn_fst :
    ((loadOrBuildIn Nat order writer store boosts).run d).1 =
      (cached? d (indexKey store boosts)).getD (Index.build boosts store.records) := by
  cases cached : cached? d (indexKey store boosts) with
  | some index =>
    rw [run_loadOrBuildIn_of_cached cached]
    rfl
  | none =>
    obtain ⟨d', -, run⟩ := run_loadOrBuildIn_of_not_cached order writer cached
    rw [run, keep_fst]
    rfl

/-- A use of the cache leaves only old contents, an empty file, or the encoding of its own index. -/
lemma holds_of_loadOrBuildIn
    (h : ((loadOrBuildIn Nat order writer store boosts).run d).2.Holds bytes) :
    d.Holds bytes ∨ bytes = [] ∨ bytes = Stored.bytes order
      ⟨storedFormat, indexKey store boosts, Index.build boosts store.records⟩ := by
  cases cached : cached? d (indexKey store boosts) with
  | some index =>
    rw [run_loadOrBuildIn_of_cached cached] at h
    exact .inl h
  | none =>
    obtain ⟨d', from', run⟩ := run_loadOrBuildIn_of_not_cached order writer cached
    rw [run] at h
    apply (holds_of_keep h).imp_left
    intro before
    cases from' with
    | inl same => exact same ▸ before
    | inr removed => exact Folder.holds_of_remove (removed ▸ before)

end run

/-- A use of the cache: a writer that goes through entries in its own order asks for an index. -/
structure Call where
  order : EntryOrder
  writer : Nat
  store : Store
  boosts : Boosts

namespace Call

def key (c : Call) : UInt64 :=
  indexKey c.store c.boosts

def built (c : Call) : Index :=
  Index.build c.boosts c.store.records

def task (c : Call) : FileTask Nat Index :=
  loadOrBuildIn Nat c.order c.writer c.store c.boosts

end Call

/-- The answers to calls that are made one after the other, and the folder that is left. -/
def runAll : List Call → Folder → List Index × Folder
  | [], d => ([], d)
  | c :: rest, d =>
    let (index, d) := c.task.run d
    let (indexes, d) := runAll rest d
    (index :: indexes, d)

section calls

variable {calls : List Call} {c : Call} {d : Folder} {bytes : List UInt8}

/-- Different stores or boosts have different keys. -/
def KeysDiffer (calls : List Call) : Prop :=
  ∀ a ∈ calls, ∀ b ∈ calls, a.key = b.key → a.store = b.store ∧ a.boosts = b.boosts

/-- A call that can use these bytes gets the built index from them. -/
def Genuine (calls : List Call) (bytes : List UInt8) : Prop :=
  ∀ c ∈ calls, ∀ index, usable? c.key bytes = some index → index = c.built

/-- An empty file was left by some call. -/
lemma genuine_nil : Genuine calls [] := by
  intro c _ index usable
  rw [usable?_nil] at usable
  cases usable

/-- What one call stores is genuine for every other call. -/
lemma genuine_bytes (differ : KeysDiffer calls) (mem : c ∈ calls) :
    Genuine calls (Stored.bytes c.order ⟨storedFormat, c.key, c.built⟩) := by
  intro c' mem' index usable
  have read := Stored.eq_of_ofBytes?_bytes storedFormat_lt (usable?_eq_some_iff.mp usable)
  rw [Stored.mk.injEq] at read
  obtain ⟨-, key, index⟩ := read
  -- Only a call for the same store and boosts looks for that key.
  obtain ⟨store, boosts⟩ := differ c' mem' c mem key
  rw [index, Call.built, Call.built, store, boosts]

/-- Every file in a folder is genuine. -/
def Sound (calls : List Call) (d : Folder) : Prop :=
  ∀ bytes, d.Holds bytes → Genuine calls bytes

/-- In a sound folder a call is answered with the built index. -/
lemma Sound.answer (sound : Sound calls d) (mem : c ∈ calls) : (c.task.run d).1 = c.built := by
  rw [Call.task, loadOrBuildIn_fst]
  cases cached : cached? d (indexKey c.store c.boosts) with
  | none => rfl
  | some index =>
    obtain ⟨bytes, read, usable⟩ := Option.bind_eq_some_iff.mp cached
    exact sound bytes ⟨_, read⟩ c mem index usable

/-- A call leaves a sound folder sound. -/
lemma Sound.call (sound : Sound calls d) (differ : KeysDiffer calls) (mem : c ∈ calls) :
    Sound calls (c.task.run d).2 := by
  intro bytes holds
  rcases holds_of_loadOrBuildIn holds with before | empty | stored
  · exact sound bytes before
  · rw [empty]
    exact genuine_nil
  · rw [stored]
    exact genuine_bytes differ mem

/-- So do any number of calls, and each is answered with the built index. -/
lemma Sound.runAll (sound : Sound calls d) (differ : KeysDiffer calls) {made : List Call}
    (subset : ∀ c ∈ made, c ∈ calls) : (runAll made d).1 = made.map Call.built := by
  -- By the calls that are still to be made, in a folder that is sound before each.
  induction made generalizing d with
  | nil => rfl
  | cons c rest ih =>
    have mem := subset c List.mem_cons_self
    have answer := sound.answer mem
    have others := ih (sound.call differ mem) fun c' mem' => subset c' (List.mem_cons_of_mem _ mem')
    simp only [Cache.runAll, List.map_cons, answer, others]

/-- A directory with nothing in it is sound. -/
lemma sound_of_empty (empty : d.entries = []) : Sound calls d := by
  intro bytes holds
  obtain ⟨name, read⟩ := holds
  obtain ⟨number, entry, -⟩ := Folder.read?_eq_some_iff.mp read
  rw [Folder.entry?_eq_lookup, empty] at entry
  cases entry

end calls

/-- A cache cannot be told from building. -/
structure Transparent (calls : List Call) (d : Folder) : Prop where
  /-- Every call is answered with the index that it would build. -/
  answers : (runAll calls d).1 = calls.map Call.built
  /-- A built index whose sizes are words is read back from its bytes, whatever the order of its
  entries is. -/
  readBack : ∀ boosts records key entries,
    entries.Perm (Index.build boosts records).postings.entries →
    (Index.build boosts records).termCount < 2 ^ 64 → (∀ r ∈ records, Bytes.Sized r.url) →
      Stored.ofBytes? (Stored.bytesInOrder storedFormat key entries
        (Index.build boosts records).refs) = some ⟨storedFormat, key, Index.build boosts records⟩

/-- In a folder that is empty at first a cache cannot be told from building, as long as no two
stores or boosts share a key. -/
theorem transparent_of_empty {calls : List Call} {d : Folder} (empty : d.entries = [])
    (differ : KeysDiffer calls) : Transparent calls d := by
  constructor
  case answers => exact (sound_of_empty empty).runAll differ fun _ mem => mem
  case readBack =>
    intro boosts records key entries perm terms sized
    rw [← List.append_nil (Stored.bytesInOrder _ _ _ _)]
    exact Stored.ofBytes?_bytesInOrder (s := ⟨storedFormat, key, Index.build boosts records⟩) perm
      storedFormat_lt (Index.storable_build terms sized) []

/-- So it cannot where a store is indexed with two pairs of boosts, one of them no numbers to speak
of, another store differs from it in a body, and one writer goes through entries backwards. -/
theorem transparent_of_empty_boosts :
    let store : Store := .ofDistinct [⟨"It", "", "/it/"⟩] (by decide) (by decide)
    let other : Store := .ofDistinct [⟨"It", "<p>Read it</p>", "/it/"⟩] (by decide) (by decide)
    let backwards : EntryOrder := ⟨fun m => m.entries.reverse, fun m => m.entries.reverse_perm⟩
    let calls : List Call := [⟨.ascending, 1, store, .default⟩, ⟨backwards, 2, other, .default⟩,
      ⟨backwards, 1, store, ⟨Single.zero, Single.invalid⟩⟩, ⟨.ascending, 2, store, .default⟩]
    Folder.absent.entries = [] ∧ KeysDiffer calls ∧ Transparent calls Folder.absent := by
  intro store other backwards calls
  have body : indexKey store .default ≠ indexKey other .default := by decide +kernel
  have boosts : indexKey store .default ≠ indexKey store ⟨Single.zero, Single.invalid⟩ := by
    decide +kernel
  have both : indexKey other .default ≠ indexKey store ⟨Single.zero, Single.invalid⟩ := by
    decide +kernel
  -- The first and the last call ask for the same, and all others for different keys.
  have differ : KeysDiffer calls := by
    simp only [KeysDiffer, calls, List.forall_mem_cons, Call.key]
    simp [body, body.symm, boosts, boosts.symm, both, both.symm]
  exact ⟨rfl, differ, transparent_of_empty rfl differ⟩

end Cache
end PageSearch
