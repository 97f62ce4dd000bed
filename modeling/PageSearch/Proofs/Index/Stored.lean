import PageSearch.Bytes.Lemmas
import PageSearch.Index.Stored
import PageSearch.Proofs.Index.Postings

/-!
# Reading back stored indexes

A stored index is read back as it was, whatever the order in which its entries were written and
whatever follows it, as long as its sizes fit into the numbers that are written for them. If they do
not, the reader refuses what was written. Of a built index only the sizes of the urls and the number
of the hashes could be too large for that.
-/

namespace PageSearch

open Bytes

/-- A posting is of a document that has a number of 32 bits. -/
def Posting.Fit (p : Posting) : Prop :=
  p.doc < 2 ^ 32

/-- The sizes in an index are words of 64 bits, and its documents have numbers of 32 bits. -/
structure Index.Storable (index : Index) : Prop where
  entries : AllFit (fun e => AllFit Posting.Fit e.2) index.postings.entries
  refs : AllFit Sized index.refs

/-- A built index can be stored if its counts and urls fit their lengths. -/
lemma Index.storable_build {boosts : Boosts} {records : List Record}
    (terms : (build boosts records).termCount < 2 ^ 64) (sized : ∀ r ∈ records, Sized r.url) :
    (build boosts records).Storable := by
  have few : (build boosts records).refs.length ≤ mostDocuments := length_refs_build_le
  have most : mostDocuments = 2 ^ 32 := rfl
  refine ⟨⟨terms, ?_⟩, by omega, ?_⟩
  · intro e mem
    have length := length_postings_build_le mem
    refine ⟨by omega, ?_⟩
    intro p posted
    have doc := inRange_build e mem p posted
    rw [Posting.Fit]
    omega
  · intro ref mem
    obtain ⟨r, among, rfl⟩ := mem_of_mem_refs_build mem
    exact sized r among

namespace Stored

/-- A posting is read back if its document fits. -/
lemma readsBack_posting : ReadsBack posting? postingBytes Posting.Fit := by
  have docs := readsBack_varint 32
  constructor
  · intro p fit rest
    have bits : p.weight.bits.toNat < 256 ^ 4 := p.weight.bits.toNat_lt
    simp [posting?, postingBytes, docs.accepts fit, littleEndian?_append 4 _ _ bits]
  · intro p unfit rest
    simp [posting?, postingBytes, docs.refuses unfit]

/-- An entry is read back if its postings are. -/
lemma readsBack_entry : ReadsBack entry? entryBytes fun e => AllFit Posting.Fit e.2 := by
  have postings := readsBack_posting.counted
  have hash (e : UInt64 × List Posting) := (readsBack_varint 64).accepts e.1.toNat_lt
  constructor
  · intro e fit rest
    simp [entryBytes, entry?, hash, postings.accepts fit]
  · intro e unfit rest
    simp [entryBytes, entry?, hash, postings.refuses unfit]

section inOrder

variable {s : Stored} {entries : List (UInt64 × List Posting)}

/-- A stored index is read back, whatever the order of its entries is and whatever follows it. -/
lemma ofBytes?_bytesInOrder (perm : entries.Perm s.index.postings.entries)
    (format : s.format < 2 ^ 32) (storable : s.index.Storable) (rest : List UInt8) :
    ofBytes? (bytesInOrder s.format s.key entries s.index.refs ++ rest) = some s := by
  have written := readsBack_entry.counted.accepts (storable.entries.of_perm perm)
  have refs := readsBack_sizedText.counted.accepts storable.refs
  have map : ofEntries entries = s.index.postings := TermMap.foldl_insert_of_perm perm
  simp [ofBytes?, bytesInOrder, (readsBack_varint 32).accepts format,
    (readsBack_varint 64).accepts s.key.toNat_lt, written, refs, map]

/-- An index whose sizes do not fit is refused. -/
lemma ofBytes?_bytesInOrder_of_not_storable (perm : entries.Perm s.index.postings.entries)
    (format : s.format < 2 ^ 32) (large : ¬ s.index.Storable) (rest : List UInt8) :
    ofBytes? (bytesInOrder s.format s.key entries s.index.refs ++ rest) = none := by
  simp only [ofBytes?, bytesInOrder, List.append_assoc, (readsBack_varint 32).accepts format,
    (readsBack_varint 64).accepts s.key.toNat_lt, Option.bind_eq_bind, Option.bind_some]
  -- Either the entries are refused, or they are read and the references are refused.
  by_cases fit : AllFit (fun e => AllFit Posting.Fit e.2) entries
  · have unfit : ¬ AllFit Sized s.index.refs := by
      intro refs
      exact large ⟨fit.of_perm perm.symm, refs⟩
    have refs := readsBack_sizedText.counted.refuses unfit
    simp [readsBack_entry.counted.accepts fit, refs]
  · simp [readsBack_entry.counted.refuses fit]

end inOrder

/-- A file is read back from its bytes, in whatever order the entries are written. -/
lemma ofBytes?_bytes {order : EntryOrder} {s : Stored} (format : s.format < 2 ^ 32)
    (storable : s.index.Storable) : ofBytes? (s.bytes order) = some s := by
  rw [bytes, ← List.append_nil (bytesInOrder _ _ _ _)]
  exact ofBytes?_bytesInOrder (order.perm s.index.postings) format storable []

/-- Whatever is read back is what was stored. -/
lemma eq_of_ofBytes?_bytes {order : EntryOrder} {s s' : Stored} (format : s.format < 2 ^ 32)
    (read : ofBytes? (s.bytes order) = some s') : s' = s := by
  -- An index that is too large for its sizes is not read back at all.
  by_cases storable : s.index.Storable
  · rw [ofBytes?_bytes format storable] at read
    exact (Option.some.inj read).symm
  · have perm := order.perm s.index.postings
    rw [bytes, ← List.append_nil (bytesInOrder _ _ _ _),
      ofBytes?_bytesInOrder_of_not_storable perm format storable] at read
    cases read

end Stored
end PageSearch
