import PageSearch.Cache.FileTask
import PageSearch.Index.Build
import PageSearch.Index.Stored
import PageSearch.Store.Fingerprint

/-!
# The cache of indexes

A built index is kept in a file that is named for the key of its store and boosts. A file that does
not hold an index of the present format under that very key is removed, and the index is built anew
and stored: first in a file of another name, so that no reader finds half of it, which then takes
the place of the old one. A cache that cannot be written is no reason to go without the index.
-/

namespace PageSearch

namespace Cache

/-- A key as sixteen hexadecimal digits. -/
def keyText (key : UInt64) : String :=
  let digits := Nat.toDigits 16 key.toNat
  String.ofList (List.replicate (16 - digits.length) '0' ++ digits)

/-- The name of the file for a key. -/
def fileName (key : UInt64) : String :=
  "index-" ++ keyText key ++ ".bin"

/-- The name of the file that one writer, known by a number, uses before it is complete. -/
def temporaryName (key : UInt64) (writer : Nat) : String :=
  "index-" ++ keyText key ++ ".tmp" ++ Nat.repr writer

/-- The index that a file holds for a key, unless it is of another format or key. -/
def usable? (key : UInt64) (bytes : List UInt8) : Option Index :=
  match Stored.ofBytes? bytes with
  | some s => if s.format = storedFormat ∧ s.key = key then some s.index else none
  | none => none

/-- Stores an index under a key, its entries in the given order, and gives the index. -/
def keep (Handle : Type) (order : EntryOrder) (writer : Nat) (key : UInt64) (index : Index) :
    FileTask Handle Index :=
  let temporary := temporaryName key writer
  .makeFolder fun made =>
    if made then
      .create temporary fun file =>
        match file with
        | none => .remove temporary (.done index)
        | some file =>
          .write file (Stored.bytes order ⟨storedFormat, key, index⟩) fun written =>
            if written then
              .rename temporary (fileName key) fun renamed =>
                if renamed then .done index else .remove temporary (.done index)
            else .remove temporary (.done index)
    else .done index

/-- The index of a store: the one in the cache, or else one that is built and stored there, its
entries in the given order. -/
def loadOrBuildIn (Handle : Type) (order : EntryOrder) (writer : Nat) (store : Store)
    (boosts : Boosts) : FileTask Handle Index :=
  let key := indexKey store boosts
  .read (fileName key) fun found =>
    match found with
    | none => keep Handle order writer key (Index.build boosts store.records)
    | some bytes =>
      match usable? key bytes with
      | some index => .done index
      | none =>
        .remove (fileName key) (keep Handle order writer key (Index.build boosts store.records))

/-- The index of a store, stored in ascending order. -/
def loadOrBuild (Handle : Type) (writer : Nat) (store : Store) (boosts : Boosts) :
    FileTask Handle Index :=
  loadOrBuildIn Handle .ascending writer store boosts

end Cache

end PageSearch
