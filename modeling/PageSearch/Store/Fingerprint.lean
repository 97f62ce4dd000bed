import PageSearch.Bytes.Basic
import PageSearch.Hash.Xxh3
import PageSearch.Index.Basic
import PageSearch.Store.Basic

/-!
# Fingerprints

The fingerprint of a store is the hash of its records: title, body and url of each in turn, every
text preceded by its length in bytes as a word of 64 bits. Lengths keep apart texts that would run
together. An index is stored under a key that adds the format of stored indexes and the boosts.
-/

namespace PageSearch

open Bytes (littleEndian)

/-- The bytes of a text after its length. -/
def fieldBytes (s : String) : List UInt8 :=
  littleEndian 8 (Bytes.ofText s).length ++ Bytes.ofText s

/-- The bytes of a record. -/
def Record.bytes (r : Record) : List UInt8 :=
  fieldBytes r.title ++ fieldBytes r.content ++ fieldBytes r.url

namespace Store

/-- The bytes that a fingerprint is the hash of. -/
def bytes (store : Store) : List UInt8 :=
  store.records.flatMap Record.bytes

def fingerprint (store : Store) : UInt64 :=
  Xxh3.hash store.bytes.toArray

end Store

/-- The format of stored indexes. -/
def storedFormat : Nat := 2

/-- The bytes that a key is the hash of. -/
def keyBytes (store : Store) (boosts : Boosts) : List UInt8 :=
  littleEndian 4 storedFormat ++ littleEndian 8 store.fingerprint.toNat ++
    littleEndian 4 boosts.title.bits.toNat ++ littleEndian 4 boosts.content.bits.toNat

/-- The key of the index that a store and boosts give. -/
def indexKey (store : Store) (boosts : Boosts) : UInt64 :=
  Xxh3.hash (keyBytes store boosts).toArray

end PageSearch
