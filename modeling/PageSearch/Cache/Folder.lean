import PageSearch.Cache.FileTask

/-!
# Folders

A folder is the state of the path at which indexes are kept: nothing at all, a plain file in the
way, or a directory. In a directory a name stands for another directory or for a file. Files have
numbers, under which their contents are kept, because a file stays the same when its name changes.

`FileTask.step` performs the first operation of a task on a folder, and `FileTask.run` all of them.
-/

namespace PageSearch

/-- What a name in a directory stands for. -/
inductive Entry where
  | file (number : Nat)
  | directory
  deriving DecidableEq

/-- What is found at a path. -/
inductive Place where
  | nothing
  | plainFile
  | directory (entries : List (String × Entry))

/-- A place for files, and the contents of every file by its number. -/
structure Folder where
  place : Place
  contents : List (List UInt8)

namespace Folder

/-- The folder at a path where nothing is. -/
def absent : Folder :=
  ⟨.nothing, []⟩

/-- The names in the folder. -/
def entries (d : Folder) : List (String × Entry) :=
  match d.place with
  | .directory entries => entries
  | .nothing | .plainFile => []

/-- What a name stands for. -/
def entry? (d : Folder) (name : String) : Option Entry :=
  d.entries.lookup name

/-- The contents of the file with a name. -/
def read? (d : Folder) (name : String) : Option (List UInt8) :=
  match d.entry? name with
  | some (.file number) => d.contents[number]?
  | some .directory | none => none

/-- The names in the folder, each with the contents of its file. -/
def listing (d : Folder) : List (String × Option (List UInt8)) :=
  d.entries.map fun (name, _) => (name, d.read? name)

/-- The entries without a name. -/
def without (name : String) (entries : List (String × Entry)) : List (String × Entry) :=
  entries.filter (·.1 != name)

/-- The folder with other entries. -/
def withEntries (d : Folder) (entries : List (String × Entry)) : Folder :=
  { d with place := .directory entries }

/-- Removes a file. -/
def remove (d : Folder) (name : String) : Folder :=
  match d.entry? name with
  | some (.file _) => d.withEntries (without name d.entries)
  | some .directory | none => d

/-- Makes the directory unless it is there, and tells whether it is there now. -/
def make (d : Folder) : Bool × Folder :=
  match d.place with
  | .nothing => (true, d.withEntries [])
  | .directory _ => (true, d)
  | .plainFile => (false, d)

/-- Makes an empty file, or empties the file of that name. -/
def create (d : Folder) (name : String) : Option Nat × Folder :=
  match d.place, d.entry? name with
  | .directory _, some (.file number) =>
    (some number, { d with contents := d.contents.set number [] })
  | .directory entries, none =>
    (some d.contents.length,
      ⟨.directory (entries ++ [(name, .file d.contents.length)]), d.contents ++ [[]]⟩)
  | _, _ => (none, d)

/-- Writes into a file from its beginning on. -/
def write (d : Folder) (number : Nat) (bytes : List UInt8) : Bool × Folder :=
  (true, { d with contents := d.contents.modify number (bytes ++ ·.drop bytes.length) })

/-- Gives a file another name, in place of the file that has it. A directory keeps its name. -/
def rename (d : Folder) (source target : String) : Bool × Folder :=
  match d.entry? source, d.entry? target with
  | some (.file _), some .directory => (false, d)
  | some (.file number), _ =>
    (true, d.withEntries (without source (without target d.entries) ++ [(target, .file number)]))
  | _, _ => (false, d)

/-- Makes a directory within the folder, under a name that is free. -/
def makeDirectory (d : Folder) (name : String) : Folder :=
  let (made, d) := d.make
  if made && (d.entry? name).isNone then d.withEntries (d.entries ++ [(name, .directory)]) else d

/-- Makes a file with contents, or gives the file of that name other contents. -/
def writeFile (d : Folder) (name : String) (bytes : List UInt8) : Folder :=
  match d.make.2.create name with
  | (some number, d) => (d.write number bytes).2
  | (none, d) => d

/-- Changes the contents of the file with a name, if there is one. -/
def editFile (d : Folder) (name : String) (f : List UInt8 → List UInt8) : Folder :=
  match d.entry? name with
  | some (.file number) => { d with contents := d.contents.modify number f }
  | some .directory | none => d

/-- Puts a plain file at the path, if nothing is there. -/
def block (d : Folder) : Folder :=
  match d.place with
  | .nothing => { d with place := .plainFile }
  | .plainFile | .directory _ => d

end Folder

namespace FileTask

variable {α : Type}

/-- Performs the first operation of a task on a folder. -/
def step : FileTask Nat α → Folder → FileTask Nat α × Folder
  | .done a, d => (.done a, d)
  | .read name next, d => (next (d.read? name), d)
  | .remove name next, d => (next, d.remove name)
  | .makeFolder next, d => (next d.make.1, d.make.2)
  | .create name next, d => (next (d.create name).1, (d.create name).2)
  | .write number bytes next, d => (next (d.write number bytes).1, (d.write number bytes).2)
  | .rename source target next, d =>
    (next (d.rename source target).1, (d.rename source target).2)

/-- Performs a task on a folder, undisturbed. -/
def run : FileTask Nat α → Folder → α × Folder
  | .done a, d => (a, d)
  | .read name next, d => (next (d.read? name)).run d
  | .remove name next, d => next.run (d.remove name)
  | .makeFolder next, d => (next d.make.1).run d.make.2
  | .create name next, d => (next (d.create name).1).run (d.create name).2
  | .write number bytes next, d => (next (d.write number bytes).1).run (d.write number bytes).2
  | .rename source target next, d =>
    (next (d.rename source target).1).run (d.rename source target).2

/-- A first step does not change what a task comes to. -/
theorem run_step (t : FileTask Nat α) (d : Folder) :
    (t.step d).1.run (t.step d).2 = t.run d := by
  cases t <;> rfl

end FileTask

end PageSearch
