import PageSearch.Index.Basic
import PageSearch.SearchError
import PageSearch.Term.Basic

/-!
# Searching an index

A query is a set of terms: its terms without stop words, or with them where it has no others. The
score of a document is the sum of the weights of the query's terms in it, added to zero in the order
of the sorted terms, so that it depends on the set alone. Hits go from high scores to low ones in
the total order of scores; equal scores keep the order of the documents.
-/

namespace PageSearch

/-- A page that a query found, by its reference. -/
structure Hit where
  reference : String
  score : Single
  deriving DecidableEq

/-- The order of terms: by their first different characters. -/
def termLE : List Char → List Char → Bool
  | [], _ => true
  | _ :: _, [] => false
  | c :: s, d :: t => if c = d then termLE s t else c.toNat < d.toNat

/-- The different terms of a query, sorted. -/
def queryTerms (query : List Char) : List (List Char) :=
  let terms := Term.ofText .dropStopWords query
  (if terms.isEmpty then Term.ofText .keepStopWords query else terms).eraseDups.mergeSort termLE

namespace Index

/-- Adds a posting's weight to the score of its document. -/
def addPosting (scores : List (Nat × Single)) (p : Posting) : List (Nat × Single) :=
  match scores with
  | [] => [(p.doc, Single.zero + p.weight)]
  | (doc, score) :: rest =>
    if doc = p.doc then (doc, score + p.weight) :: rest else (doc, score) :: addPosting rest p

/-- The score of every document that has one of the terms. -/
def scores (index : Index) (terms : List (List Char)) : List (Nat × Single) :=
  (terms.flatMap fun t => (index.postings.get? (termHash t)).getD []).foldl addPosting []

/-- A document goes before another if its score is higher, or equal and its number lower. -/
def ranksBefore (a b : Nat × Single) : Bool :=
  b.2.rank < a.2.rank || (a.2.rank == b.2.rank && a.1 ≤ b.1)

/-- The documents that a query finds with their scores, best first. -/
def ranking (index : Index) (query : List Char) : List (Nat × Single) :=
  (index.scores (queryTerms query)).mergeSort ranksBefore

/-- The hits of a query, best first. An index that ranks a document it does not hold breaks down. -/
def search (index : Index) (query : String) : Except SearchError (List Hit) :=
  (index.ranking query.toList).mapM fun (doc, score) =>
    match index.refs[doc]? with
    | some reference => .ok ⟨reference, score⟩
    | none => .error .brokenDown

end Index

end PageSearch
