import PageSearch.Proofs.Cache.Answers

/-!
# What a call leaves in the folder

A call whose index is not cached ends in one of two folders. Where a directory has the name of the
file, the new file comes and goes again, and the folder looks as it did. Otherwise the new file
takes the place of whatever had the name, and no other name is touched. Either way the next call has
the same answer and leaves the folder as it is.
-/

namespace PageSearch
namespace Cache

namespace Call

/-- The bytes of the file that a call writes. -/
def bytes (c : Call) : List UInt8 :=
  Stored.bytes c.order ⟨storedFormat, c.key, c.built⟩

/-- The sizes in the index that a call builds are words. -/
structure Sized (c : Call) : Prop where
  terms : c.built.termCount < 2 ^ 64
  urls : ∀ r ∈ c.store.records, Bytes.Sized r.url

/-- An encoding can be read back. -/
lemma ofBytes?_bytes {c : Call} (sized : c.Sized) :
    Stored.ofBytes? c.bytes = some ⟨storedFormat, c.key, c.built⟩ :=
  Stored.ofBytes?_bytes storedFormat_lt (Index.storable_build sized.terms sized.urls)

end Call

section kept

variable {writer : Nat} {key : UInt64} {c : Call} {d : Folder} {bytes : List UInt8} {name : String}

/-- No temporary file has the name of a file. -/
lemma fileName_ne_temporaryName : fileName key ≠ temporaryName key writer := by
  intro eq
  have chars := congrArg String.toList eq
  simp only [fileName, temporaryName, String.toList_append, List.append_assoc] at chars
  have ends := List.append_cancel_left (List.append_cancel_left chars)
  simp at ends

/-- The folder after an index has been stored. -/
def kept (d : Folder) (key : UInt64) (bytes : List UInt8) : Folder :=
  if d.entry? (fileName key) = some .directory then d.spend bytes else d.put (fileName key) bytes

/-- Storing an index fails only at a directory in the place of the file. -/
lemma run_keep (order : EntryOrder) (index : Index) (possible : d.place ≠ .plainFile)
    (free : d.entry? (temporaryName key writer) = none) :
    (keep Nat order writer key index).run d =
      (index, kept d key (Stored.bytes order ⟨storedFormat, key, index⟩)) := by
  have made : d.make.1 = true := by
    cases place : d.place with
    | plainFile => exact absurd place possible
    | nothing | directory _ => simp [Folder.make, place]
  simp only [keep, FileTask.run, made, if_true, Folder.create_make possible free, Folder.write_put,
    Folder.rename_put free fileName_ne_temporaryName, kept]
  split
  · simp only [FileTask.run, Bool.false_eq_true, if_false, Folder.remove_put free]
  · rfl

/-- It does not matter for what is kept whether the old file was removed before. -/
lemma kept_remove : kept (d.remove (fileName key)) key bytes = kept d key bytes := by
  by_cases directory : d.entry? (fileName key) = some .directory
  · simp [Folder.remove, directory]
  · have removed : Folder.entry? (d.remove (fileName key)) (fileName key) ≠ some .directory := by
      intro entry
      exact directory (Folder.entry?_of_remove entry)
    rw [kept, kept, if_neg directory, if_neg removed, Folder.put_remove]

/-- A removal puts no plain file in the place of the directory. -/
lemma place_remove (possible : d.place ≠ .plainFile) :
    (d.remove name).place ≠ .plainFile := by
  unfold Folder.remove
  split
  · simp [Folder.withEntries]
  · exact possible
  · exact possible

/-- A call whose index is not cached builds and stores it. -/
lemma run_task_of_not_cached (possible : d.place ≠ .plainFile)
    (free : d.entry? (temporaryName c.key c.writer) = none) (none : cached? d c.key = none) :
    c.task.run d = (c.built, kept d c.key c.bytes) := by
  obtain ⟨d', from', run⟩ := run_loadOrBuildIn_of_not_cached c.order c.writer none
  rw [Call.task, run]
  cases from' with
  | inl same =>
    subst same
    exact run_keep c.order c.built possible free
  | inr removed =>
    subst removed
    -- The removal of the file leaves the temporary name free.
    have free' : Folder.entry? (d.remove (fileName c.key)) (temporaryName c.key c.writer) =
        Option.none := by
      rw [Option.eq_none_iff_forall_ne_some]
      intro e entry
      rw [Folder.entry?_of_remove entry] at free
      cases free
    have stored := run_keep c.order c.built (place_remove possible) free'
    rw [kept_remove] at stored
    exact stored

/-- A name that is not the file's stands for what it stood for. -/
lemma entry?_kept (other : name ≠ fileName key) :
    Folder.entry? (kept d key bytes) name = d.entry? name := by
  unfold kept
  split
  · rfl
  · rw [Folder.entry?_put, if_neg other]

/-- To keep an index adds one file. -/
lemma contents_kept : (kept d key bytes).contents = d.contents ++ [bytes] := by
  unfold kept
  split <;> rfl

/-- A directory in the place of the file stays there, and nothing else is seen. -/
lemma looksLike_kept (intact : d.Intact)
    (directory : d.entry? (fileName key) = some .directory) : (kept d key bytes).LooksLike d := by
  rw [kept, if_pos directory]
  exact Folder.looksLike_spend intact directory

/-- No index is read from a directory. -/
lemma cached?_of_directory (directory : d.entry? (fileName key) = some .directory) :
    cached? d key = none := by
  simp [cached?, Folder.read?, directory]

/-- What has been stored is cached from then on, unless a directory is in its place. -/
lemma read?_kept (place : d.entry? (fileName key) ≠ some .directory) :
    (kept d key bytes).read? (fileName key) = some bytes := by
  rw [kept, if_neg place, Folder.read?_put_self]

end kept

/-- What becomes of a folder when an index is asked for, whatever the file for it holds. -/
structure Recovered (c : Call) (d : Folder) : Prop where
  /-- A cached index is the answer, and nothing changes. -/
  cached : ∀ index, cached? d c.key = some index → c.task.run d = (index, d)
  /-- Otherwise the built index is the answer. -/
  built : cached? d c.key = none → (c.task.run d).1 = c.built
  /-- No temporary file is left behind. -/
  temporary : Folder.entry? (c.task.run d).2 (temporaryName c.key c.writer) = none
  /-- Every other name stands for what it stood for, with the same contents. -/
  others : ∀ name, name ≠ fileName c.key →
    Folder.entry? (c.task.run d).2 name = d.entry? name ∧ (c.task.run d).2.read? name = d.read? name
  /-- A directory in the place of the file stays there, and so does all else. -/
  directory : d.entry? (fileName c.key) = some .directory → (c.task.run d).2.LooksLike d
  /-- Otherwise the file holds the answer, under the key. -/
  stored : d.entry? (fileName c.key) ≠ some .directory →
    ∃ bytes, (c.task.run d).2.read? (fileName c.key) = some bytes ∧
      Stored.ofBytes? bytes = some ⟨storedFormat, c.key, (c.task.run d).1⟩
  /-- The next call for the same index, by any writer whose temporary name is free, has the same
  answer and changes nothing. -/
  again : ∀ next : Call, next.store = c.store → next.boosts = c.boosts →
    d.entry? (temporaryName c.key next.writer) = none →
      (next.task.run (c.task.run d).2).1 = (c.task.run d).1 ∧
      (next.task.run (c.task.run d).2).2.LooksLike (c.task.run d).2

section recovered

variable {c next : Call} {d : Folder}

/-- The same records and boosts have the same key. -/
lemma key_eq (store : next.store = c.store) (boosts : next.boosts = c.boosts) :
    next.key = c.key := by
  rw [Call.key, store, boosts, Call.key]

/-- They have the same index. -/
lemma built_eq (store : next.store = c.store) (boosts : next.boosts = c.boosts) :
    next.built = c.built := by
  rw [Call.built, store, boosts, Call.built]

/-- A usable file is used, and the folder stays as it is. -/
lemma run_task_of_cached {index : Index} (found : cached? d c.key = some index) :
    c.task.run d = (index, d) :=
  run_loadOrBuildIn_of_cached found

/-- A folder in which the index is cached need not recover. -/
lemma recovered_of_cached {index : Index} (free : d.entry? (temporaryName c.key c.writer) = none)
    (found : cached? d c.key = some index) : Recovered c d := by
  have run : c.task.run d = (index, d) := run_task_of_cached found
  constructor
  case cached =>
    intro index' found'
    exact run_task_of_cached found'
  case built =>
    intro none
    rw [found] at none
    cases none
  case temporary =>
    rw [run]
    exact free
  case others =>
    intro name _
    rw [run]
    exact ⟨rfl, rfl⟩
  case directory =>
    intro directory
    rw [cached?_of_directory directory] at found
    cases found
  case stored =>
    intro _
    rw [run]
    obtain ⟨bytes, read, usable⟩ := Option.bind_eq_some_iff.mp found
    exact ⟨bytes, read, usable?_eq_some_iff.mp usable⟩
  case again =>
    intro next store boosts _
    rw [← key_eq store boosts] at found
    rw [run, run_task_of_cached found]
    exact ⟨rfl, rfl, fun _ => rfl⟩

/-- The next call after an index has been stored finds it, or cannot store it either. -/
lemma run_task_kept (store : next.store = c.store) (boosts : next.boosts = c.boosts)
    (possible : d.place ≠ .plainFile) (intact : d.Intact)
    (free : d.entry? (temporaryName c.key next.writer) = none)
    (intact' : (kept d c.key c.bytes).Intact) (sized : c.Sized) :
    ∃ d', next.task.run (kept d c.key c.bytes) = (c.built, d') ∧
      d'.LooksLike (kept d c.key c.bytes) := by
  by_cases directory : d.entry? (fileName c.key) = some .directory
  · -- The folder looks as it did, so that the second call does what the first one has done.
    have looks : (kept d c.key c.bytes).LooksLike d := looksLike_kept intact directory
    have possible' : (kept d c.key c.bytes).place ≠ .plainFile := by
      rw [looks.place]
      exact possible
    have free' : Folder.entry? (kept d c.key c.bytes) (temporaryName next.key next.writer) =
        none := by
      rw [key_eq store boosts, looks.entry?]
      exact free
    have directory' : Folder.entry? (kept d c.key c.bytes) (fileName next.key) =
        some .directory := by
      rw [key_eq store boosts, looks.entry?]
      exact directory
    have run := run_task_of_not_cached possible' free' (cached?_of_directory directory')
    rw [built_eq store boosts] at run
    exact ⟨_, run, looksLike_kept intact' directory'⟩
  · have found : cached? (kept d c.key c.bytes) next.key = some c.built := by
      rw [key_eq store boosts, cached?, read?_kept directory, Option.bind_some,
        usable?_eq_some_iff]
      exact Call.ofBytes?_bytes sized
    exact ⟨_, run_task_of_cached found, rfl, fun _ => rfl⟩

/-- A folder in which the index is not cached recovers by storing it. -/
lemma recovered_of_not_cached (possible : d.place ≠ .plainFile) (intact : d.Intact)
    (free : d.entry? (temporaryName c.key c.writer) = none) (sized : c.Sized)
    (none : cached? d c.key = none) : Recovered c d := by
  have run : c.task.run d = (c.built, kept d c.key c.bytes) :=
    run_task_of_not_cached possible free none
  constructor
  case cached =>
    intro index found
    rw [none] at found
    cases found
  case built =>
    intro _
    rw [run]
  case temporary =>
    rw [run, entry?_kept fileName_ne_temporaryName.symm]
    exact free
  case others =>
    intro name other
    rw [run]
    have entry : Folder.entry? (kept d c.key c.bytes) name = d.entry? name := entry?_kept other
    exact ⟨entry, Folder.read?_of_entry? intact contents_kept entry⟩
  case directory =>
    intro directory
    rw [run]
    exact looksLike_kept intact directory
  case stored =>
    intro place
    rw [run]
    exact ⟨_, read?_kept place, Call.ofBytes?_bytes sized⟩
  case again =>
    intro next store boosts free'
    have intact' : (c.task.run d).2.Intact := intact.run c.task
    rw [run] at intact' ⊢
    obtain ⟨d', again, looks⟩ := run_task_kept store boosts possible intact free' intact' sized
    rw [again]
    exact ⟨rfl, looks⟩

end recovered

/-- A cache recovers from whatever it finds in a folder: from any bytes in its file, from a
directory in the place of the file, and from no file at all. -/
theorem recovered_task {c : Call} {d : Folder} (possible : d.place ≠ .plainFile) (intact : d.Intact)
    (free : d.entry? (temporaryName c.key c.writer) = none) (sized : c.Sized) : Recovered c d := by
  cases found : cached? d c.key with
  | some index => exact recovered_of_cached free found
  | none => exact recovered_of_not_cached possible intact free sized found

/-- So it does from a file that is no index, beside a file of somebody else's. -/
theorem recovered_task_no_index :
    let store : Store :=
      .ofDistinct [⟨"It", "", "/it/"⟩, ⟨"Guide", "<p>Read it</p>", "/guide/"⟩]
        (by decide) (by decide)
    let c : Call := ⟨.ascending, 1, store, .default⟩
    let d : Folder := ⟨.directory [(fileName c.key, .file 0), ("notes", .file 1)],
      [Bytes.ofText "no index", Bytes.ofText "mine"]⟩
    cached? d c.key = none ∧ d.place ≠ .plainFile ∧ d.Intact ∧
      d.entry? (temporaryName c.key c.writer) = none ∧ c.Sized ∧ Recovered c d := by
  intro store c d
  have unusable : usable? c.key (Bytes.ofText "no index") = none := by
    have refused : Stored.ofBytes? (Bytes.ofText "no index") = none := by rfl
    rw [usable?, refused]
  have none : cached? d c.key = none := by
    simpa [cached?, Folder.read?, Folder.entry?_eq_lookup, Folder.entries, d] using unusable
  -- The two names stand for the two files that there are.
  have intact : d.Intact := by
    intro name number entry
    obtain ⟨before, after, eq, -⟩ := List.lookup_eq_some_iff.mp entry
    have mem : (name, Entry.file number) ∈ d.entries := by
      rw [eq]
      exact List.mem_append_right _ List.mem_cons_self
    simp only [Folder.entries, d, List.mem_cons, Prod.mk.injEq, Entry.file.injEq, List.not_mem_nil,
      or_false] at mem
    simp only [d, List.length_cons, List.length_nil]
    omega
  have possible : d.place ≠ .plainFile := by simp [d]
  have free : d.entry? (temporaryName c.key c.writer) = Option.none := by
    have other : temporaryName c.key c.writer ≠ "notes" := by
      intro eq
      have chars := congrArg String.toList eq
      simp [temporaryName] at chars
    have own : temporaryName c.key c.writer ≠ fileName c.key := fileName_ne_temporaryName.symm
    simp [Folder.entry?_eq_lookup, Folder.entries, d, own, other]
  have sized : c.Sized := ⟨by decide +kernel, by decide +kernel⟩
  exact ⟨none, possible, intact, free, sized, recovered_task possible intact free sized⟩

end Cache
end PageSearch
