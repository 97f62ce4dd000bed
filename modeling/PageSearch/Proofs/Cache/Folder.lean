import Mathlib.Data.List.Basic
import Mathlib.Tactic.Lemma
import PageSearch.Cache.Folder

/-!
# What a folder holds

An operation on a folder brings in no contents but those it is given. What can be read afterwards
could be read before, under this name or another, or is empty because a file has just been created,
or has just been written into such a file.
-/

namespace PageSearch
namespace Folder

variable {d d' : Folder} {name n source target : String} {number : Nat} {e : Entry}
  {bytes new : List UInt8}

/-- There is a file with these contents. -/
def Holds (d : Folder) (bytes : List UInt8) : Prop :=
  ∃ name, d.read? name = some bytes

/-- What a name stands for is looked up among the entries. -/
lemma entry?_eq_lookup (d : Folder) (name : String) : d.entry? name = d.entries.lookup name := rfl

/-- A file can be read if its name stands for one that has contents. -/
lemma read?_eq_some_iff :
    d.read? name = some bytes ↔
      ∃ number, d.entry? name = some (.file number) ∧ d.contents[number]? = some bytes := by
  unfold read?
  split
  · rename_i k entry
    simp [entry]
  · rename_i entry
    simp [entry]
  · rename_i entry
    simp [entry]

/-- Bytes are held if a name leads to them. -/
lemma Holds.intro (entry : d.entry? name = some (.file number))
    (contents : d.contents[number]? = some bytes) : d.Holds bytes :=
  ⟨name, read?_eq_some_iff.mpr ⟨number, entry, contents⟩⟩

/-- Without a name only that name is gone. -/
lemma lookup_without (name n : String) (entries : List (String × Entry)) :
    (without name entries).lookup n = if n = name then none else entries.lookup n := by
  induction entries with
  | nil => simp [without]
  | cons x rest ih =>
    obtain ⟨m, e⟩ := x
    unfold without at ih ⊢
    by_cases out : m = name
    · subst out
      by_cases same : n = m
      · subst same
        simpa using ih
      · simp [List.lookup_cons, same, beq_eq_false_iff_ne.mpr same, ih]
    · by_cases same : n = m
      · subst same
        simp [out]
      · simp [List.lookup_cons, out, beq_eq_false_iff_ne.mpr same, ih]

/-- What is found after an entry was added was there, or is that entry. -/
lemma lookup_concat_eq_some (entries : List (String × Entry)) {e' : Entry}
    (found : (entries ++ [(name, e')]).lookup n = some e) :
    entries.lookup n = some e ∨ n = name ∧ e' = e := by
  rw [List.lookup_append, Option.or_eq_some_iff, List.lookup_cons] at found
  cases found with
  | inl old => exact .inl old
  | inr last =>
    obtain ⟨-, last⟩ := last
    split at last
    · rename_i same
      exact .inr ⟨beq_iff_eq.mp same, Option.some.inj last⟩
    · cases last

/-- Making the directory brings nothing into it. -/
lemma entry?_make : Folder.entry? d.make.2 n = d.entry? n := by
  obtain ⟨place, contents⟩ := d
  cases place <;> rfl

/-- Making the directory leaves the contents of all files as they are. -/
lemma contents_make : d.make.2.contents = d.contents := by
  obtain ⟨place, contents⟩ := d
  cases place <;> rfl

/-- So nothing new can be read after it. -/
lemma holds_of_make (h : d.make.2.Holds bytes) : d.Holds bytes := by
  obtain ⟨n, read⟩ := h
  obtain ⟨number, entry, contents⟩ := read?_eq_some_iff.mp read
  rw [entry?_make] at entry
  rw [contents_make] at contents
  exact .intro entry contents

/-- What a name stands for after a removal, it stood for before. -/
lemma entry?_of_remove (h : Folder.entry? (d.remove name) n = some e) : d.entry? n = some e := by
  unfold remove at h
  split at h
  · have found : (without name d.entries).lookup n = some e := h
    rw [lookup_without] at found
    split at found
    · cases found
    · exact found
  · exact h
  · exact h

/-- A removal leaves the contents of all files as they are. -/
lemma contents_remove : (d.remove name).contents = d.contents := by
  unfold remove
  split <;> rfl

/-- So nothing new can be read after it. -/
lemma holds_of_remove (h : (d.remove name).Holds bytes) : d.Holds bytes := by
  obtain ⟨n, read⟩ := h
  obtain ⟨number, entry, contents⟩ := read?_eq_some_iff.mp read
  rw [contents_remove] at contents
  exact .intro (entry?_of_remove entry) contents

/-- A file is created by emptying the one of that name, or by adding one if there is none. -/
lemma create_cases (created : d.create name = (some number, d')) :
    (d.entry? name = some (.file number) ∧ d' = { d with contents := d.contents.set number [] }) ∨
      (∃ entries, d.place = .directory entries ∧ number = d.contents.length ∧
        d' = ⟨.directory (entries ++ [(name, .file number)]), d.contents ++ [[]]⟩) := by
  unfold create at created
  split at created
  · rename_i k _ entry
    cases created
    exact .inl ⟨entry, rfl⟩
  · rename_i entries place entry
    cases created
    exact .inr ⟨entries, place, rfl, rfl⟩
  · cases created

/-- A file that cannot be created leaves the folder as it is. -/
lemma create_of_eq_none (failed : d.create name = (none, d')) : d' = d := by
  unfold create at failed
  split at failed
  · cases failed
  · cases failed
  · cases failed
    rfl

/-- The file that has been created is empty. -/
lemma eq_nil_of_create (created : d.create name = (some number, d'))
    (contents : d'.contents[number]? = some bytes) : bytes = [] := by
  cases create_cases created with
  | inl emptied =>
    obtain ⟨-, rfl⟩ := emptied
    rw [List.getElem?_set_self'] at contents
    cases old : d.contents[number]? with
    | none => simp [old] at contents
    | some _ => simpa [old, eq_comm] using contents
  | inr added =>
    obtain ⟨entries, -, rfl, rfl⟩ := added
    simpa [eq_comm] using contents

/-- After a file is created, an empty one can be read besides what could be. -/
lemma holds_of_create (created : d.create name = (some number, d')) (h : d'.Holds bytes) :
    d.Holds bytes ∨ bytes = [] := by
  obtain ⟨n, read⟩ := h
  obtain ⟨k, entry, contents⟩ := read?_eq_some_iff.mp read
  by_cases own : k = number
  · subst own
    exact .inr (eq_nil_of_create created contents)
  left
  cases create_cases created with
  | inl emptied =>
    obtain ⟨-, rfl⟩ := emptied
    rw [List.getElem?_set_ne (Ne.symm own)] at contents
    exact .intro entry contents
  | inr added =>
    obtain ⟨entries, place, rfl, rfl⟩ := added
    have old : d.entry? n = some (.file k) := by
      cases lookup_concat_eq_some entries entry with
      | inl old => simpa [entry?_eq_lookup, Folder.entries, place] using old
      | inr last =>
        cases last.2
        exact absurd rfl own
    rw [List.getElem?_append] at contents
    split at contents
    · exact .intro old contents
    · have : k - d.contents.length ≠ 0 := by omega
      simp [this] at contents

/-- Writing into an empty file brings in what is written. -/
lemma holds_of_write (empty : ∀ old, d.contents[number]? = some old → old = [])
    (h : (d.write number new).2.Holds bytes) : d.Holds bytes ∨ bytes = new := by
  obtain ⟨n, read⟩ := h
  obtain ⟨k, entry, contents⟩ := read?_eq_some_iff.mp read
  have written : (d.contents.modify number (new ++ ·.drop new.length))[k]? = some bytes := contents
  rw [List.getElem?_modify, Option.map_eq_map, Option.map_eq_some_iff] at written
  obtain ⟨old, at', eq⟩ := written
  by_cases own : number = k
  · subst own
    rw [empty old at'] at eq
    simp only [if_true, List.drop_nil, List.append_nil] at eq
    exact .inr eq.symm
  · rw [if_neg own] at eq
    subst eq
    exact .inl (.intro entry at')

/-- After a renaming a name stands for what it stood for, or for what was renamed. -/
lemma entry?_of_rename (h : Folder.entry? (d.rename source target).2 n = some e) :
    d.entry? n = some e ∨ d.entry? source = some e := by
  unfold rename at h
  split at h
  · exact .inl h
  · rename_i k entry _
    cases lookup_concat_eq_some (without source (without target d.entries)) h with
    | inl old =>
      rw [lookup_without, lookup_without] at old
      split at old
      · cases old
      · split at old
        · cases old
        · exact .inl old
    | inr last =>
      rw [← last.2]
      exact .inr entry
  · exact .inl h

/-- A renaming leaves the contents of all files as they are. -/
lemma contents_rename : (d.rename source target).2.contents = d.contents := by
  unfold rename
  split <;> rfl

/-- So nothing new can be read after it. -/
lemma holds_of_rename (h : (d.rename source target).2.Holds bytes) : d.Holds bytes := by
  obtain ⟨n, read⟩ := h
  obtain ⟨number, entry, contents⟩ := read?_eq_some_iff.mp read
  rw [contents_rename] at contents
  cases entry?_of_rename entry with
  | inl own => exact .intro own contents
  | inr source => exact .intro source contents

/-- Every file that has a name has contents. -/
def Intact (d : Folder) : Prop :=
  ∀ name number, d.entry? name = some (.file number) → number < d.contents.length

/-- Names still lead to files after the directory is made. -/
lemma Intact.make (intact : d.Intact) : d.make.2.Intact := by
  intro n k entry
  rw [entry?_make] at entry
  rw [contents_make]
  exact intact n k entry

/-- They do after a removal. -/
lemma Intact.remove (intact : d.Intact) : (d.remove name).Intact := by
  intro n k entry
  rw [contents_remove]
  exact intact n k (entry?_of_remove entry)

/-- They do after a file is created, which is the last one. -/
lemma Intact.create (intact : d.Intact) : (d.create name).2.Intact := by
  cases created : d.create name with
  | mk file d' =>
    cases file with
    | none =>
      rw [create_of_eq_none created]
      exact intact
    | some number =>
      intro n k entry
      cases create_cases created with
      | inl emptied =>
        obtain ⟨-, rfl⟩ := emptied
        rw [List.length_set]
        exact intact n k entry
      | inr added =>
        obtain ⟨entries, place, rfl, rfl⟩ := added
        rw [List.length_append, List.length_singleton]
        cases lookup_concat_eq_some entries entry with
        | inl old =>
          have lt := intact n k (by simpa [entry?_eq_lookup, Folder.entries, place] using old)
          omega
        | inr last =>
          cases last.2
          exact Nat.lt_succ_self _

/-- They do after a file is written. -/
lemma Intact.write (intact : d.Intact) : (d.write number new).2.Intact := by
  intro n k entry
  have lt := intact n k entry
  simpa [Folder.write] using lt

/-- They do after a renaming. -/
lemma Intact.rename (intact : d.Intact) : (d.rename source target).2.Intact := by
  intro n k entry
  rw [contents_rename]
  cases entry?_of_rename entry with
  | inl own => exact intact n k own
  | inr moved => exact intact source k moved

/-- A task keeps a folder intact, whatever its operations come to. -/
theorem Intact.run {α : Type} (t : FileTask Nat α) (intact : d.Intact) : (t.run d).2.Intact := by
  induction t generalizing d with
  | done _ => exact intact
  | read _ _ ih => exact ih _ intact
  | remove _ _ ih => exact ih intact.remove
  | makeFolder _ ih => exact ih _ intact.make
  | create _ _ ih => exact ih _ intact.create
  | write _ _ _ ih => exact ih _ intact.write
  | rename _ _ _ ih => exact ih _ intact.rename

/-- Every name stands for what it stood for, with the same contents. -/
structure LooksLike (d' d : Folder) : Prop where
  place : d'.place = d.place
  read? : ∀ n, d'.read? n = d.read? n

/-- Folders that look alike have the same names for the same things. -/
lemma LooksLike.entry? (looks : d'.LooksLike d) (n : String) : d'.entry? n = d.entry? n := by
  simp only [entry?_eq_lookup, Folder.entries, looks.place]

/-- The directory with a new file under a name, in place of whatever had that name. -/
def put (d : Folder) (name : String) (bytes : List UInt8) : Folder :=
  ⟨.directory (without name d.entries ++ [(name, .file d.contents.length)]), d.contents ++ [bytes]⟩

/-- The directory after a file has come and gone. -/
def spend (d : Folder) (bytes : List UInt8) : Folder :=
  ⟨.directory d.entries, d.contents ++ [bytes]⟩

section put

/-- A new file is seen under its name, and what other names stand for is unchanged. -/
lemma entry?_put :
    Folder.entry? (d.put name bytes) n =
      if n = name then some (Entry.file d.contents.length) else d.entry? n := by
  show (without name d.entries ++ [(name, Entry.file d.contents.length)]).lookup n = _
  rw [List.lookup_append, lookup_without]
  by_cases same : n = name
  · simp [same]
  · simp [same, List.lookup_cons, beq_eq_false_iff_ne.mpr same, entry?_eq_lookup]

/-- A new file can be read. -/
lemma read?_put_self : (d.put name bytes).read? name = some bytes := by
  refine read?_eq_some_iff.mpr ⟨d.contents.length, ?_, ?_⟩
  · rw [entry?_put, if_pos rfl]
  · simp [put]

/-- Contents that are added at the end do not show under the names that were there. -/
lemma read?_of_entry? (intact : d.Intact) (contents : d'.contents = d.contents ++ [bytes])
    (entry : d'.entry? n = d.entry? n) : d'.read? n = d.read? n := by
  unfold read?
  rw [entry, contents]
  cases found : d.entry? n with
  | none => rfl
  | some e =>
    cases e with
    | directory => rfl
    | file k => exact List.getElem?_append_left (intact n k found)

/-- A file that no name leads to is not seen. -/
lemma looksLike_spend (intact : d.Intact) (entry : d.entry? name = some e) :
    (d.spend bytes).LooksLike d := by
  refine ⟨?_, fun n => read?_of_entry? intact rfl rfl⟩
  cases place : d.place with
  | directory entries => simp [spend, Folder.entries, place]
  | nothing | plainFile => simp [entry?_eq_lookup, Folder.entries, place] at entry

/-- Without a name that is free nothing is gone. -/
lemma without_of_lookup {entries : List (String × Entry)} (free : entries.lookup name = none) :
    without name entries = entries := by
  apply List.filter_eq_self.mpr
  intro x mem
  have other := List.lookup_eq_none_iff.mp free x mem
  rwa [bne_comm]

/-- The entry of a new file comes last. -/
lemma entries_put :
    (d.put name bytes).entries = without name d.entries ++ [(name, .file d.contents.length)] := rfl

/-- An entry that was added is gone with its name. -/
lemma without_concat (name : String) (entries : List (String × Entry)) (e : Entry) :
    without name (entries ++ [(name, e)]) = without name entries := by
  simp [without]

/-- An entry that was added under another name stays. -/
lemma without_concat_of_ne {entries : List (String × Entry)} (other : n ≠ name) :
    without name (entries ++ [(n, e)]) = without name entries ++ [(n, e)] := by
  simp [without, other]

/-- Names may be left out in any order. -/
lemma without_without (name n : String) (entries : List (String × Entry)) :
    without name (without n entries) = without n (without name entries) :=
  List.filter_comm _ _ _

/-- A new file takes the place of the one that had its name. -/
lemma put_remove : (d.remove name).put name bytes = d.put name bytes := by
  unfold remove
  split
  · simp [put, withEntries, Folder.entries, without]
  · rfl
  · rfl

/-- Where nothing has a name, a file of that name is created, in a directory that is made if need
be. -/
lemma create_make (possible : d.place ≠ .plainFile) (free : d.entry? name = none) :
    d.make.2.create name = (some d.contents.length, d.put name []) := by
  have kept : without name d.entries = d.entries := without_of_lookup free
  unfold put
  rw [kept]
  cases place : d.place with
  | plainFile => exact absurd place possible
  | nothing => simp [make, create, place, withEntries, entry?_eq_lookup, Folder.entries]
  | directory entries => simp [make, create, place, free, Folder.entries]

/-- The file that was created last is filled by writing. -/
lemma write_put : (d.put name []).write d.contents.length bytes = (true, d.put name bytes) := by
  simp [put, Folder.write, List.modify_eq_set_getElem?]

/-- A new file that is removed is not seen again. -/
lemma remove_put (free : d.entry? name = none) :
    (d.put name bytes).remove name = d.spend bytes := by
  have kept : without name d.entries = d.entries := without_of_lookup free
  unfold remove
  rw [entry?_put, if_pos rfl, entries_put, without_concat, kept, kept]
  rfl

/-- A new file takes the place of whatever has the other name, unless that is a directory. -/
lemma rename_put (free : d.entry? name = none) (other : n ≠ name) :
    (d.put name bytes).rename name n =
      if d.entry? n = some .directory then (false, d.put name bytes)
      else (true, d.put n bytes) := by
  have kept : without name d.entries = d.entries := without_of_lookup free
  have moved : without name (without n (d.put name bytes).entries) = without n d.entries := by
    rw [entries_put, without_concat_of_ne other.symm, without_concat, without_without, kept, kept]
  unfold rename
  rw [entry?_put, if_pos rfl, entry?_put, if_neg other]
  split
  · rename_i directory
    rw [if_pos directory]
  · rename_i number eq directory
    cases eq
    rw [if_neg directory, moved]
    rfl
  · rename_i none _
    exact absurd rfl (none _)

end put

section directory

/-- A removal leaves other names alone. -/
lemma entry?_remove_of_ne (other : n ≠ name) : Folder.entry? (d.remove name) n = d.entry? n := by
  unfold Folder.remove
  split
  · show (without name d.entries).lookup n = _
    rw [lookup_without, if_neg other, entry?_eq_lookup]
  · rfl
  · rfl

/-- A directory is still one after a removal. -/
lemma place_remove_directory (directory : ∃ entries, d.place = .directory entries) :
    ∃ entries, (d.remove name).place = .directory entries := by
  unfold Folder.remove
  split
  · exact ⟨_, rfl⟩
  · exact directory
  · exact directory

/-- A directory that is there need not be made. -/
lemma make_directory (directory : ∃ entries, d.place = .directory entries) :
    d.make = (true, d) := by
  obtain ⟨entries, place⟩ := directory
  simp only [Folder.make, place]

/-- Under a free name a new file is created. -/
lemma create_free (directory : ∃ entries, d.place = .directory entries)
    (free : d.entry? name = none) :
    d.create name = (some d.contents.length, d.put name []) := by
  have possible : d.place ≠ .plainFile := by
    obtain ⟨entries, place⟩ := directory
    simp [place]
  have created := create_make possible free
  rwa [make_directory directory] at created

/-- A file is renamed unless a directory has the name. -/
lemma rename_file (other : source ≠ target) (entry : d.entry? source = some (.file number))
    (noDirectory : d.entry? target ≠ some .directory) :
    ∃ d', d.rename source target = (true, d') ∧ d'.contents = d.contents ∧
      (∃ entries, d'.place = .directory entries) ∧
      Folder.entry? d' target = some (.file number) ∧ Folder.entry? d' source = none := by
  have renamed : d.rename source target = (true, d.withEntries (without source
      (without target d.entries) ++ [(target, .file number)])) := by
    unfold Folder.rename
    rw [entry]
    split
    · rename_i directory
      exact absurd directory noDirectory
    · rename_i k eq _
      cases eq
      rfl
    · rename_i none _
      exact absurd rfl (none _)
  refine ⟨_, renamed, rfl, ⟨_, rfl⟩, ?_, ?_⟩
  · show (without source (without target d.entries) ++ _).lookup target = _
    rw [List.lookup_append, lookup_without, if_neg other.symm, lookup_without, if_pos rfl]
    simp
  · show (without source (without target d.entries) ++ _).lookup source = _
    rw [List.lookup_append, lookup_without, if_pos rfl]
    simp [List.lookup_cons, beq_eq_false_iff_ne.mpr other]

variable {contents : List (List UInt8)}

/-- One entry is not found under another name. -/
lemma lookup_singleton_of_ne {e : Entry} (other : n ≠ name) : [(name, e)].lookup n = none := by
  simp [List.lookup_cons, beq_eq_false_iff_ne.mpr other]

/-- A file is not read under another name. -/
lemma read?_singleton_of_ne (other : n ≠ name) :
    Folder.read? ⟨.directory [(name, .file number)], contents⟩ n = none := by
  simp [Folder.read?, Folder.entry?, Folder.entries, lookup_singleton_of_ne other]

/-- To create the only file again empties it. -/
lemma create_singleton :
    Folder.create ⟨.directory [(name, .file number)], contents⟩ name =
      (some number, ⟨.directory [(name, .file number)], contents.set number []⟩) := by
  simp [Folder.create, Folder.entry?, Folder.entries]

/-- The only file gets another name. -/
lemma rename_singleton (other : target ≠ source) :
    Folder.rename ⟨.directory [(source, .file number)], contents⟩ source target =
      (true, ⟨.directory [(target, .file number)], contents⟩) := by
  simp [Folder.rename, Folder.entry?, Folder.entries, without, Folder.withEntries,
    lookup_singleton_of_ne other]

end directory

end Folder
end PageSearch
