import PageSearch.Proofs.Index.Search
import PageSearch.Proofs.Term.Words

/-!
# Queries of stop words

A query that consists of stop words is looked up with them, and stop words in the body of a page
are not filed. But pages are filed under stems, and a word that is no stop word can have the stem of
one, as `wills` has that of `will`. With such a word in its body a page is returned although its
title has none of the query's terms. Apart from this, only a collision of hashes brings a page
without one.
-/

namespace PageSearch

open Term Text

namespace Index

/-- A term of a query is one of a record's title. -/
def InTitle (query : List Char) (r : Record) : Prop :=
  ∃ t ∈ ofText .keepStopWords query, t ∈ titleTerms r

/-- A form in a record's body is no stop word, and yet its stem is that of a stop word and a term of
a query. -/
def InDisguise (query : List Char) (r : Record) : Prop :=
  ∃ form ∈ formsOf (plainText r.content).toList, isStopWord (lowercase form) = false ∧
    ∃ word ∈ stopWords, stem word.toList = stem (lowercase form) ∧
      stem word.toList ∈ ofText .keepStopWords query

/-- A term of a record is none of a query's but has the hash of one. -/
def Collides (query : List Char) (r : Record) : Prop :=
  ∃ t ∈ ofText .keepStopWords query, ∃ u, (u ∈ titleTerms r ∨ u ∈ contentTerms r) ∧ u ≠ t ∧
    termHash u = termHash t

section

variable {query t : List Char} {r : Record}

/-- The terms of a query that consists of stop words are stems of stop words. -/
lemma exists_stopWord_of_mem (none : ofText .dropStopWords query = [])
    (mem : t ∈ ofText .keepStopWords query) : ∃ word ∈ stopWords, stem word.toList = t := by
  obtain ⟨form, memForm, -, rfl⟩ := mem_ofText_iff.mp mem
  have stop : isStopWord (lowercase form) = true := by
    -- A form that is no stop word would be a term without stop words, and there is none.
    by_contra other
    have dropped : stem (lowercase form) ∈ ofText .dropStopWords query :=
      mem_ofText_iff.mpr ⟨form, memForm, fun _ => by simpa using other, rfl⟩
    rw [none] at dropped
    cases dropped
  refine ⟨String.ofList (lowercase form), ?_, by rw [String.toList_ofList]⟩
  simpa [isStopWord] using stop

/-- A term of a record's body is the stem of a form that is no stop word. -/
lemma mem_contentTerms_iff :
    t ∈ contentTerms r ↔
      ∃ form ∈ formsOf (plainText r.content).toList,
        isStopWord (lowercase form) = false ∧ stem (lowercase form) = t := by
  simp [contentTerms, mem_ofText_iff, plainText]

/-- A query that consists of stop words shares a term with a body through words that are none. -/
lemma inDisguise_iff (none : ofText .dropStopWords query = []) :
    InDisguise query r ↔ ∃ t ∈ ofText .keepStopWords query, t ∈ contentTerms r := by
  simp only [mem_contentTerms_iff]
  constructor
  · intro h
    obtain ⟨form, memForm, other, word, -, eq, mem⟩ := h
    exact ⟨_, mem, form, memForm, other, eq.symm⟩
  · intro h
    obtain ⟨t, mem, form, memForm, other, eq⟩ := h
    obtain ⟨word, memWord, eqWord⟩ := exists_stopWord_of_mem none mem
    exact ⟨form, memForm, other, word, memWord, eqWord.trans eq.symm, eqWord ▸ mem⟩

/-- A query that consists of stop words finds a record in these three ways. -/
lemma finds_iff_of_eq_nil (none : ofText .dropStopWords query = []) :
    Finds query r ↔ InTitle query r ∨ InDisguise query r ∨ Collides query r := by
  simp only [inDisguise_iff none, Finds, wanted_iff_of_eq_nil none, HasHash]
  constructor
  · intro h
    obtain ⟨t, mem, u, memU, hash⟩ := h
    -- The hash is that of the same term, or two different terms collide.
    by_cases same : u = t
    · subst same
      cases memU with
      | inl title => exact .inl ⟨u, mem, title⟩
      | inr content => exact .inr (.inl ⟨u, mem, content⟩)
    · exact .inr (.inr ⟨t, mem, u, memU, same, hash⟩)
  · rintro (⟨t, mem, title⟩ | ⟨t, mem, content⟩ | ⟨t, mem, u, memU, -, hash⟩)
    · exact ⟨t, mem, t, .inl title, rfl⟩
    · exact ⟨t, mem, t, .inr content, rfl⟩
    · exact ⟨t, mem, u, memU, hash⟩

end

/-- A query that consists of stop words returns a record if the title has one of the query's terms,
and otherwise only if the body has the stem of a stop word from a word that is none, or if hashes
collide. -/
theorem returns_stopWords_iff (boosts : Boosts) (records : List Record) {query : String}
    (none : ofText .dropStopWords query.toList = []) (doc : Nat) :
    (build boosts records).Returns query doc ↔
      doc < mostDocuments ∧ ∃ r, records[doc]? = some r ∧
        (InTitle query.toList r ∨ InDisguise query.toList r ∨ Collides query.toList r) := by
  rw [returns_build_iff]
  refine and_congr_right fun _ => exists_congr fun r => and_congr_right fun _ => ?_
  exact finds_iff_of_eq_nil none

/-- So for two stop words, one of which a page has in its title and another page in its body. -/
theorem returns_stopWords_iff_it :
    let records : List Record := [⟨"It", "", "/it/"⟩, ⟨"Guide", "<p>Read it</p>", "/guide/"⟩]
    ofText .dropStopWords "is it".toList = [] ∧
      ∀ doc, (build .default records).Returns "is it" doc ↔
        doc < mostDocuments ∧ ∃ r, records[doc]? = some r ∧
          (InTitle "is it".toList r ∨ InDisguise "is it".toList r ∨
            Collides "is it".toList r) := by
  intro records
  have none : ofText .dropStopWords "is it".toList = [] := by decide +kernel
  exact ⟨none, returns_stopWords_iff .default records none⟩

/-- A page is returned for its body alone: it says `wills`, and the query is `will`. -/
theorem returns_will_of_wills :
    let r : Record := ⟨"Guide", "<p>Draft wills</p>", "/guide/"⟩
    ofText .dropStopWords "will".toList = [] ∧ (build .default [r]).Returns "will" 0 ∧
      ¬ InTitle "will".toList r := by
  intro r
  have none : ofText .dropStopWords "will".toList = [] := by decide +kernel
  have terms : ofText .keepStopWords "will".toList = ["will".toList] := by decide +kernel
  have content : "will".toList ∈ contentTerms r := by decide +kernel
  have title : "will".toList ∉ titleTerms r := by decide +kernel
  refine ⟨none, ?_, ?_⟩
  · have wanted : Wanted "will".toList "will".toList := by
      rw [wanted_iff_of_eq_nil none, terms]
      exact List.mem_cons_self
    exact returns_build_iff.mpr ⟨by decide, r, rfl, _, wanted, _, .inr content, rfl⟩
  · intro found
    obtain ⟨t, mem, inTitle⟩ := found
    rw [terms, List.mem_singleton] at mem
    subst mem
    exact title inTitle

end Index
end PageSearch
