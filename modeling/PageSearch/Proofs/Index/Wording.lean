import PageSearch.Proofs.Index.Ranking
import PageSearch.Proofs.Term.Spelling

/-!
# What the wording of a query decides

A query finds a page by a word however the two of them spell it, as long as the word is no stop
word. Queries with a separator between them find together what each of them finds, provided that
none consists of stop words only, and separators at the ends of a query change nothing.
-/

namespace PageSearch

open Term

namespace Index

/-- A word of a query that is no stop word wants the stem of the squashed word. -/
lemma wanted_stem_squash {query word : List Char} (stands : WordIn word query)
    (ne : squash word ≠ []) (other : isStopWord (squash word) = false) :
    Wanted query (stem (squash word)) :=
  .inl (stem_squash_mem_ofText .dropStopWords stands ne other)

/-- A word of a record's title or body that is no stop word gives the record the stem of the
squashed word. -/
lemma hasHash_stem_squash {r : Record} {word : List Char}
    (stands : WordIn word r.title.toList ∨ WordIn word (plainText r.content).toList)
    (ne : squash word ≠ []) (other : isStopWord (squash word) = false) :
    HasHash r (termHash (stem (squash word))) := by
  refine ⟨stem (squash word), ?_, rfl⟩
  cases stands with
  | inl title => exact .inl (stem_squash_mem_ofText .keepStopWords title ne other)
  | inr content =>
    rw [plainText, String.toList_ofList] at content
    exact .inr (stem_squash_mem_ofText .dropStopWords content ne other)

/-- A record with a word in its title or its body is returned for every query with a spelling of
this word, unless it is a stop word. Only a record that comes too late to get a number is not. -/
theorem returns_of_squash_eq (boosts : Boosts) (records : List Record) {query : String}
    {asked written : List Char} (askedFor : WordIn asked query.toList)
    (same : squash asked = squash written) (ne : squash written ≠ [])
    (other : isStopWord (squash written) = false) {doc : Nat} {r : Record}
    (at' : records[doc]? = some r)
    (stands : WordIn written r.title.toList ∨ WordIn written (plainText r.content).toList) :
    (build boosts records).Returns query doc ↔ doc < mostDocuments := by
  have wanted : Wanted query.toList (stem (squash written)) := by
    rw [← same] at ne other ⊢
    exact wanted_stem_squash askedFor ne other
  rw [returns_build_iff]
  constructor
  · intro h
    exact h.1
  · intro numbered
    exact ⟨numbered, r, at', _, wanted, hasHash_stem_squash stands ne other⟩

/-- So is a page that writes the word with joiners, more of them than it needs, when the query has
it in one piece with capitals inside. -/
theorem returns_of_squash_eq_typeahead :
    let records : List Record := [⟨"Guide", "", "/guide/"⟩, ⟨"The _type--Ahead box", "", "/box/"⟩]
    let asked := "TypeAHEAD".toList
    let written := "_type--Ahead".toList
    WordIn asked "TypeAHEAD".toList ∧ squash asked = squash written ∧ squash written ≠ [] ∧
      isStopWord (squash written) = false ∧
      records[1]? = some ⟨"The _type--Ahead box", "", "/box/"⟩ ∧
      WordIn written "The _type--Ahead box".toList ∧
      (build .default records).Returns "TypeAHEAD" 1 := by
  intro records asked written
  have askedFor : WordIn asked "TypeAHEAD".toList :=
    wordIn_self (by decide) (List.all_eq_true.mp (by decide +kernel))
  have same : squash asked = squash written := by decide +kernel
  have ne : squash written ≠ [] := by decide +kernel
  have other : isStopWord (squash written) = false := by decide +kernel
  have stands : WordIn written "The _type--Ahead box".toList :=
    mem_wordsOf_iff.mp (by decide +kernel)
  exact ⟨askedFor, same, ne, other, rfl, stands,
    (returns_of_squash_eq .default records askedFor same ne other rfl (.inl stands)).mpr
      (by decide)⟩

/-- A separator between words is no letter or digit, no `_` and no `-`. -/
def Separator (c : Char) : Prop :=
  Text.isAlphanumeric c = false ∧ c ≠ '_' ∧ c ≠ '-'

/-- A character separates if it can be no part of a word. -/
lemma separator_iff {c : Char} : Separator c ↔ isWordPart c = false := by
  simp [Separator, isWordPart, isJoiner]

/-- Two queries that have terms without stop words want together what each of them wants. -/
lemma wanted_append_cons {c : Char} {a b t : List Char} (separator : Separator c)
    (someA : ofText .dropStopWords a ≠ []) (someB : ofText .dropStopWords b ≠ []) :
    Wanted (a ++ c :: b) t ↔ Wanted a t ∨ Wanted b t := by
  have split := ofText_append_cons (separator_iff.mp separator) .dropStopWords a b
  have some : ofText .dropStopWords (a ++ c :: b) ≠ [] := by
    rw [split]
    exact List.append_ne_nil_of_left_ne_nil someA _
  rw [wanted_iff_of_ne_nil some, wanted_iff_of_ne_nil someA, wanted_iff_of_ne_nil someB, split,
    List.mem_append]

/-- A record is found by two queries together if it is found by one of them. -/
lemma finds_append_cons {c : Char} {a b : List Char} {r : Record} (separator : Separator c)
    (someA : ofText .dropStopWords a ≠ []) (someB : ofText .dropStopWords b ≠ []) :
    Finds (a ++ c :: b) r ↔ Finds a r ∨ Finds b r := by
  simp only [Finds, wanted_append_cons separator someA someB, or_and_right, exists_or]

/-- Separators at the ends of a query leave its different terms as they are. -/
lemma differentTerms_between {before after : List Char} (starts : ∀ c ∈ before, Separator c)
    (ends : ∀ c ∈ after, Separator c) (query : List Char) :
    differentTerms (before ++ query ++ after) = differentTerms query := by
  have same (mode : Mode) : ofText mode (before ++ query ++ after) = ofText mode query :=
    ofText_between (fun c mem => separator_iff.mp (starts c mem))
      (fun c mem => separator_iff.mp (ends c mem)) mode query
  rw [differentTerms, same, same, differentTerms]

/-- What separators mean to the queries of an index. -/
structure Separated (index : Index) : Prop where
  /-- The terms of two texts with a separator between them are those of the one and then those of
  the other. -/
  terms : ∀ mode c (a b : List Char), Separator c →
    ofText mode (a ++ c :: b) = ofText mode a ++ ofText mode b
  /-- Two queries with a separator between them return what one of them does, if each has a term
  that is no stop word. -/
  union : ∀ c (a b : String), Separator c → ofText .dropStopWords a.toList ≠ [] →
    ofText .dropStopWords b.toList ≠ [] → ∀ doc,
      index.Returns (a ++ String.singleton c ++ b) doc ↔ index.Returns a doc ∨ index.Returns b doc
  /-- Separators at the ends of a query change neither the terms that it wants nor its hits, in
  whatever order a search goes through terms. -/
  ends : ∀ before query after : String, (∀ c ∈ before.toList, Separator c) →
    (∀ c ∈ after.toList, Separator c) →
      (∀ t, Wanted (before ++ query ++ after).toList t ↔ Wanted query.toList t) ∧
      index.search (before ++ query ++ after) = index.search query ∧
      ∀ order, index.searchIn order (before ++ query ++ after) = index.searchIn order query
  /-- Blanks are separators. -/
  blanks : ∀ c, Text.isBlank c = true → Separator c

/-- A built index takes separators so, whatever the boosts are. -/
theorem separated_build (boosts : Boosts) (records : List Record) :
    Separated (build boosts records) := by
  constructor
  case terms =>
    intro mode c a b separator
    exact ofText_append_cons (separator_iff.mp separator) mode a b
  case union =>
    intro c a b separator someA someB doc
    have both : (a ++ String.singleton c ++ b).toList = a.toList ++ c :: b.toList := by simp
    simp only [returns_build_iff, both, finds_append_cons separator someA someB, and_or_left,
      exists_or]
  case ends =>
    intro before query after starts ends
    have padded : (before ++ query ++ after).toList =
        before.toList ++ query.toList ++ after.toList := by simp
    have same := differentTerms_between starts ends query.toList
    rw [← padded] at same
    have hits (order : TermOrder) :
        (build boosts records).searchIn order (before ++ query ++ after) =
          (build boosts records).searchIn order query := by
      rw [searchIn, searchIn, rankingIn, rankingIn, termsIn, termsIn, same]
    refine ⟨fun t => ?_, hits .sorted, hits⟩
    have wanted (text : List Char) : t ∈ termsIn .sorted text ↔ Wanted text t := mem_termsIn
    rw [← wanted, termsIn, same, ← termsIn, wanted]
  case blanks => exact fun c blank => separator_iff.mpr (isWordPart_of_isBlank blank)

/-- So a query with a semicolon in it returns what the two sides of the semicolon return, one of
which has a stop word beside its term. -/
theorem separated_build_semicolon :
    let records : List Record :=
      [⟨"Run", "", "/run/"⟩, ⟨"It", "", "/it/"⟩, ⟨"Setup", "", "/setup/"⟩]
    Separator ';' ∧ ofText .dropStopWords "run it".toList ≠ [] ∧
      ofText .dropStopWords "setup".toList ≠ [] ∧
      ∀ doc, (build .default records).Returns "run it;setup" doc ↔
        (build .default records).Returns "run it" doc ∨
          (build .default records).Returns "setup" doc := by
  intro records
  have separator : Separator ';' := ⟨by decide +kernel, by decide, by decide⟩
  have someA : ofText .dropStopWords "run it".toList ≠ [] := by decide +kernel
  have someB : ofText .dropStopWords "setup".toList ≠ [] := by decide +kernel
  exact ⟨separator, someA, someB,
    (separated_build .default records).union ';' "run it" "setup" separator someA someB⟩

end Index
end PageSearch
