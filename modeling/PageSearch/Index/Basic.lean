import PageSearch.Hash.Xxh3
import PageSearch.Index.TermMap
import PageSearch.Number.Single
import PageSearch.Text.Case

/-!
# Indexes

An index holds, under the hash of each term, the postings of that term: the documents that contain
it and how much it weighs there. Documents are numbered in the order they were indexed, and the
index knows each of them only by its reference, the url of the page.
-/

namespace PageSearch

/-- A document that contains a term, and the weight of the term in it. -/
structure Posting where
  doc : Nat
  weight : Single
  deriving DecidableEq

/-- The postings under the hash of each term, and the reference of each document. -/
structure Index where
  postings : TermMap (List Posting)
  refs : List String

/-- What the terms of a title and of a body count for. -/
structure Boosts where
  title : Single
  content : Single
  deriving DecidableEq

/-- A term counts ten times as much in a title as in a body. -/
def Boosts.default : Boosts :=
  ⟨Single.ofNat 10, Single.ofNat 1⟩

/-- The bytes of a text. -/
def utf8 (s : List Char) : Array UInt8 :=
  (String.ofList s).toUTF8.data

/-- The hash that a term is filed under; letter case does not matter. -/
def termHash (term : List Char) : UInt64 :=
  Xxh3.hash (utf8 (Text.lowercase term))

namespace Index

def documentCount (index : Index) : Nat :=
  index.refs.length

def termCount (index : Index) : Nat :=
  index.postings.size

end Index

end PageSearch
