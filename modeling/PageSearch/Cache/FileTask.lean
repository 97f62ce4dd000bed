/-!
# File tasks

A file task is a computation that works on the files of one directory. Its operations are atomic:
other tasks may work on the same directory between any two of them. An operation that fails says so
and changes nothing. A file is written through a handle from the operation that created it, so that
the bytes arrive in that file under whatever name it has by then.
-/

namespace PageSearch

/-- A computation on the files of a directory that gives a result of type `α`. -/
inductive FileTask (Handle α : Type) where
  /-- The result. -/
  | done (result : α)
  /-- Reads a whole file. -/
  | read (name : String) (next : Option (List UInt8) → FileTask Handle α)
  /-- Removes a file; whether there was one does not matter. -/
  | remove (name : String) (next : FileTask Handle α)
  /-- Makes the directory unless it is there, and tells whether it is there now. -/
  | makeFolder (next : Bool → FileTask Handle α)
  /-- Makes an empty file, or empties the file of that name. -/
  | create (name : String) (next : Option Handle → FileTask Handle α)
  /-- Writes into a file from its beginning on. -/
  | write (file : Handle) (bytes : List UInt8) (next : Bool → FileTask Handle α)
  /-- Gives a file another name, in place of the file that has it. -/
  | rename (source target : String) (next : Bool → FileTask Handle α)

end PageSearch
