import PageSearch.Bytes.Lemmas
import PageSearch.Store.Fingerprint

/-!
# What fingerprints and keys tell apart

The bytes that a fingerprint is the hash of can be cut into texts in one way only: each text stands
after its length, and no text is so long that its length does not fit. So they are the bytes of one
list of records. A key adds the boosts at fixed places. Two stores with boosts thus share a key only
if they are the same, or if the hash itself collides on their bytes.
-/

namespace PageSearch

open Bytes (littleEndian littleEndian_inj length_littleEndian ofText ofText_inj Sized)

variable {rest rest' : List UInt8}

/-- The sizes of the texts of a record are words of 64 bits. -/
structure Record.Sized (r : Record) : Prop where
  title : Bytes.Sized r.title
  content : Bytes.Sized r.content
  url : Bytes.Sized r.url

instance (r : Record) : Decidable r.Sized :=
  decidable_of_iff (Bytes.Sized r.title ∧ Bytes.Sized r.content ∧ Bytes.Sized r.url)
    ⟨fun h => ⟨h.1, h.2.1, h.2.2⟩, fun h => ⟨h.title, h.content, h.url⟩⟩

/-- A text can be told from the bytes that follow it. -/
lemma fieldBytes_append_inj {s t : String} (hs : Sized s) (ht : Sized t)
    (eq : fieldBytes s ++ rest = fieldBytes t ++ rest') : s = t ∧ rest = rest' := by
  simp only [fieldBytes, List.append_assoc] at eq
  -- All sizes take as many bytes, so they are split off first and tell where the text ends.
  obtain ⟨sizes, eq⟩ := List.append_inj eq (by simp only [length_littleEndian])
  have size : (ofText s).length = (ofText t).length := littleEndian_inj hs ht sizes
  obtain ⟨texts, rests⟩ := List.append_inj eq size
  exact ⟨ofText_inj texts, rests⟩

namespace Record

variable {r r' : Record} {records records' : List Record}

/-- So can a record. -/
lemma bytes_append_inj (h : r.Sized) (h' : r'.Sized)
    (eq : r.bytes ++ rest = r'.bytes ++ rest') : r = r' ∧ rest = rest' := by
  obtain ⟨title, content, url⟩ := r
  obtain ⟨title', content', url'⟩ := r'
  simp only [bytes, List.append_assoc] at eq
  obtain ⟨titles, eq⟩ := fieldBytes_append_inj h.title h'.title eq
  obtain ⟨contents, eq⟩ := fieldBytes_append_inj h.content h'.content eq
  obtain ⟨urls, eq⟩ := fieldBytes_append_inj h.url h'.url eq
  refine ⟨?_, eq⟩
  rw [Record.mk.injEq]
  exact ⟨titles, contents, urls⟩

/-- The bytes of a record are never empty. -/
lemma bytes_ne_nil : r.bytes ≠ [] := by
  intro nil
  simp [bytes, fieldBytes, littleEndian] at nil

/-- The bytes of two lists of records are the same only for the same records. -/
lemma flatMap_bytes_inj (sized : ∀ r ∈ records, r.Sized) (sized' : ∀ r ∈ records', r.Sized)
    (eq : records.flatMap bytes = records'.flatMap bytes) : records = records' := by
  induction records generalizing records' with
  | nil =>
    cases records' with
    | nil => rfl
    | cons r' others' =>
      rw [List.flatMap_nil, List.flatMap_cons, eq_comm] at eq
      exact absurd (List.append_eq_nil_iff.mp eq).1 bytes_ne_nil
  | cons r others ih =>
    cases records' with
    | nil =>
      rw [List.flatMap_nil, List.flatMap_cons] at eq
      exact absurd (List.append_eq_nil_iff.mp eq).1 bytes_ne_nil
    | cons r' others' =>
      obtain ⟨first, sized⟩ := List.forall_mem_cons.mp sized
      obtain ⟨first', sized'⟩ := List.forall_mem_cons.mp sized'
      rw [List.flatMap_cons, List.flatMap_cons] at eq
      obtain ⟨same, eq⟩ := bytes_append_inj first first' eq
      rw [same, ih sized sized' eq]

end Record

section keys

variable {store store' : Store} {boosts boosts' : Boosts}

/-- Four bytes have room for the bits of a boost. -/
lemma bits_inj {x y : Single} (eq : littleEndian 4 x.bits.toNat = littleEndian 4 y.bits.toNat) :
    x = y := by
  have bits := littleEndian_inj x.bits.toNat_lt y.bits.toNat_lt eq
  rw [Single.mk.injEq]
  exact UInt32.toNat_inj.mp bits

/-- The bytes of a key are those of a fingerprint and of boosts. -/
lemma keyBytes_inj (eq : keyBytes store boosts = keyBytes store' boosts') :
    store.fingerprint = store'.fingerprint ∧ boosts = boosts' := by
  simp only [keyBytes, List.append_assoc] at eq
  obtain ⟨-, eq⟩ := List.append_inj eq rfl
  obtain ⟨fingerprints, eq⟩ := List.append_inj eq (by simp only [length_littleEndian])
  obtain ⟨titles, contents⟩ := List.append_inj eq (by simp only [length_littleEndian])
  have same := littleEndian_inj store.fingerprint.toNat_lt store'.fingerprint.toNat_lt fingerprints
  refine ⟨UInt64.toNat_inj.mp same, ?_⟩
  rw [Boosts.mk.injEq]
  exact ⟨bits_inj titles, bits_inj contents⟩

/-- Different bytes have the same hash. -/
def Xxh3.Collide (a b : List UInt8) : Prop :=
  a ≠ b ∧ hash a.toArray = hash b.toArray

/-- Two lists of bytes with one hash are the same, or collide. -/
lemma Xxh3.eq_or_collide {a b : List UInt8} (same : hash a.toArray = hash b.toArray) :
    a = b ∨ Collide a b := by
  by_cases equal : a = b
  · exact .inl equal
  · exact .inr ⟨equal, same⟩

end keys

/-- The bytes that are hashed for records identify them. -/
structure Identified (records records' : List Record) : Prop where
  /-- The same bytes are hashed for the same records, and only for these. -/
  bytes_eq_iff : records.flatMap Record.bytes = records'.flatMap Record.bytes ↔ records = records'
  /-- Stores of these records share a key only with the same records and boosts, unless the hash
  collides on the bytes of the records or on those of the key. -/
  of_key_eq : ∀ (store store' : Store) (boosts boosts' : Boosts),
    store.records = records → store'.records = records' →
    indexKey store boosts = indexKey store' boosts' →
      records = records' ∧ boosts = boosts' ∨ Xxh3.Collide store.bytes store'.bytes ∨
        Xxh3.Collide (keyBytes store boosts) (keyBytes store' boosts')

/-- The bytes that are hashed for records of a possible size identify them. -/
theorem identified_of_sized {records records' : List Record} (sized : ∀ r ∈ records, r.Sized)
    (sized' : ∀ r ∈ records', r.Sized) : Identified records records' := by
  have bytes_eq_iff :
      records.flatMap Record.bytes = records'.flatMap Record.bytes ↔ records = records' := by
    constructor
    · exact Record.flatMap_bytes_inj sized sized'
    · intro same
      rw [same]
  refine ⟨bytes_eq_iff, ?_⟩
  intro store store' boosts boosts' own own' key
  subst own own'
  -- Either hash can collide: that of the key, or that of the records inside it.
  cases Xxh3.eq_or_collide key with
  | inr collide => exact .inr (.inr collide)
  | inl bytes =>
    obtain ⟨fingerprint, boosts⟩ := keyBytes_inj bytes
    cases Xxh3.eq_or_collide fingerprint with
    | inr collide => exact .inr (.inl collide)
    | inl bytes => exact .inl ⟨bytes_eq_iff.mp bytes, boosts⟩

/-- So do those of records in which a text that looks like a length is moved from one field to the
next, and from one record to two. -/
theorem identified_of_sized_moved :
    let records : List Record := [⟨"guide", "\x05\x00\x00\x00\x00\x00\x00\x00guide", "/guide/"⟩]
    let records' : List Record := [⟨"", "guide", "guide"⟩, ⟨"", "", "/guide/"⟩]
    (∀ r ∈ records, r.Sized) ∧ (∀ r ∈ records', r.Sized) ∧ Identified records records' := by
  intro records records'
  have sized : ∀ r ∈ records, r.Sized := by decide +kernel
  have sized' : ∀ r ∈ records', r.Sized := by decide +kernel
  exact ⟨sized, sized', identified_of_sized sized sized'⟩

end PageSearch
