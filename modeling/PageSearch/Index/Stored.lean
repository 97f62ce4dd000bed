import PageSearch.Bytes.Varint
import PageSearch.Index.Basic

/-!
# Stored indexes

An index is stored after the format of the file and the key it was built under. The entries for the
hashes may be written in any order; a reader keeps the last of several entries for one hash, and
does not look at bytes after the end. It checks the form of a file only: a stored index may rank
documents that it has no reference for.
-/

namespace PageSearch

open Bytes

/-- An index with the format and the key that it is stored under. -/
structure Stored where
  format : Nat
  key : UInt64
  index : Index

/-- An order in which a writer goes through the entries of a map. -/
structure EntryOrder where
  entries : TermMap (List Posting) → List (UInt64 × List Posting)
  perm : ∀ m, (entries m).Perm m.entries

/-- The order of ascending hashes. -/
def EntryOrder.ascending : EntryOrder :=
  ⟨TermMap.entries, fun _ => .refl _⟩

namespace Stored

def postingBytes (p : Posting) : List UInt8 :=
  varint p.doc ++ littleEndian 4 p.weight.bits.toNat

def posting? : Reader Posting := fun bytes => do
  let (doc, bytes) ← varint? 32 bytes
  let (bits, bytes) ← littleEndian? 4 bytes
  return (⟨doc, ⟨bits.toUInt32⟩⟩, bytes)

def entryBytes (e : UInt64 × List Posting) : List UInt8 :=
  varint e.1.toNat ++ counted postingBytes e.2

def entry? : Reader (UInt64 × List Posting) := fun bytes => do
  let (hash, bytes) ← varint? 64 bytes
  let (postings, bytes) ← counted? posting? bytes
  return ((hash.toUInt64, postings), bytes)

/-- The map with these entries, the last of several for one hash. -/
def ofEntries (entries : List (UInt64 × List Posting)) : TermMap (List Posting) :=
  entries.foldl (fun m (hash, postings) => m.insert hash postings) .empty

/-- The bytes of an index whose entries are written in the given order. -/
def bytesInOrder (format : Nat) (key : UInt64) (entries : List (UInt64 × List Posting))
    (refs : List String) : List UInt8 :=
  varint format ++ varint key.toNat ++ counted entryBytes entries ++ counted sizedText refs

/-- The bytes of a stored index, its entries in the given order. -/
def bytes (order : EntryOrder) (s : Stored) : List UInt8 :=
  bytesInOrder s.format s.key (order.entries s.index.postings) s.index.refs

/-- The stored index that a list of bytes starts with. -/
def ofBytes? (bytes : List UInt8) : Option Stored := do
  let (format, bytes) ← varint? 32 bytes
  let (key, bytes) ← varint? 64 bytes
  let (entries, bytes) ← counted? entry? bytes
  let (refs, _) ← counted? sizedText? bytes
  return ⟨format, key.toUInt64, ofEntries entries, refs⟩

end Stored

end PageSearch
