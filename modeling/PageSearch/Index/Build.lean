import PageSearch.Index.Basic
import PageSearch.Markup.PlainText
import PageSearch.Number.Logarithm
import PageSearch.Record
import PageSearch.Term.Basic

/-!
# Building an index

Every record is first tallied by itself. A term's frequency in a record is the number of times its
title has it, times the boost for titles, and then the same for its body, added to zero in this
order. The length of a record is the number of terms in its title and body.

The weight of a term in a record is

  `log (1 + frequency / norm) * log (1 + records / holders)`

where `holders` counts the records that have the term, and `norm` is the record's length relative
to the average over all records that have any terms, or one half if that is more.

Documents have numbers of 32 bits. Records that would get a greater number are left out.
-/

namespace PageSearch

namespace Index

/-- The terms of a record's title, stop words included. -/
def titleTerms (r : Record) : List (List Char) :=
  Term.ofText .keepStopWords r.title.toList

/-- The terms of a record's body, stop words left out. -/
def contentTerms (r : Record) : List (List Char) :=
  Term.ofText .dropStopWords (Markup.plainChars r.content.toList)

/-- The different terms of a list, each with the number of times it occurs. -/
def countTerms (terms : List (List Char)) : List (List Char × Nat) :=
  terms.eraseDups.map fun t => (t, terms.count t)

/-- The frequencies of one record's terms, under their hashes, and its length. -/
structure Tally where
  frequencies : TermMap Single
  length : Nat

/-- Adds the terms of one field to the frequencies. -/
def addField (boost : Single) (terms : List (List Char)) (frequencies : TermMap Single) :
    TermMap Single :=
  (countTerms terms).foldl
    (fun m (t, n) => m.update (termHash t) fun old => old.getD Single.zero + Single.ofNat n * boost)
    frequencies

/-- The tally of a record. -/
def Tally.of (boosts : Boosts) (r : Record) : Tally where
  frequencies :=
    addField boosts.content (contentTerms r) (addField boosts.title (titleTerms r) .empty)
  length := (titleTerms r).length + (contentTerms r).length

/-- Files the frequencies of a document under the hashes of its terms, after those of the documents
before it. -/
def addTally (groups : TermMap (List (Nat × Single))) (doc : Nat) (tally : Tally) :
    TermMap (List (Nat × Single)) :=
  tally.frequencies.entries.foldl
    (fun m (hash, frequency) => m.update hash fun old => old.getD [] ++ [(doc, frequency)]) groups

/-- For each hash, the documents with a term of that hash and its frequency in them. -/
def group (tallies : List Tally) : TermMap (List (Nat × Single)) :=
  tallies.zipIdx.foldl (fun groups (tally, doc) => addTally groups doc tally) .empty

/-- The average of the lengths that are not zero, and one if all are. -/
def averageLength (lengths : List Nat) : Single :=
  let counted := lengths.filter (0 < ·)
  if counted.isEmpty then Single.one
  else Single.ofNat (counted.foldl (· + ·) 0) / Single.ofNat counted.length

/-- The weight of a term of this frequency in a record of this length. -/
def weight (frequency : Single) (length : Nat) (average : Single) (records holders : Nat) :
    Single :=
  let norm := (Single.ofNat length / average).max Single.half
  (Single.one + frequency / norm).log *
    (Single.one + Single.ofNat records / Single.ofNat holders).log

/-- How many documents an index can number. -/
def mostDocuments : Nat :=
  UInt32.size

/-- The index of a list of records. -/
def build (boosts : Boosts) (records : List Record) : Index :=
  let records := records.take mostDocuments
  let tallies := records.map (Tally.of boosts)
  let lengths := tallies.map Tally.length
  let average := averageLength lengths
  { postings := (group tallies).map fun holders => holders.map fun (doc, frequency) =>
      ⟨doc, weight frequency (lengths.getD doc 0) average records.length holders.length⟩
    refs := records.map Record.url }

end Index

end PageSearch
