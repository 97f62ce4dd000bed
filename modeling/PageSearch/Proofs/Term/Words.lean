import PageSearch.Proofs.Term.Stem
import PageSearch.Proofs.Text.Runs
import PageSearch.Term.Basic

/-!
# The terms of a text

Where a text is cut, its terms are those of the two sides, so blanks at the ends of a text do not
matter. A text with a letter or a digit in it has a term if stop words are kept, and leaving them
out only takes terms away.
-/

namespace PageSearch
namespace Text

/-- Lowercasing leaves something of a text. -/
lemma lowercase_ne_nil {s : List Char} (h : s ≠ []) : lowercase s ≠ [] :=
  lowercaseAfter_ne_nil h

end Text

namespace Term

open Text

/-- A blank is no part of a word. -/
lemma isWordPart_of_isBlank {c : Char} (h : isBlank c = true) : isWordPart c = false := by
  have none : (Span.holds c.toNat alphabeticSpans || Span.holds c.toNat numericSpans ||
      c.toNat == '_'.toNat || c.toNat == '-'.toNat) = false :=
    of_forall_blank (P := fun n => (Span.holds n alphabeticSpans || Span.holds n numericSpans ||
      n == '_'.toNat || n == '-'.toNat) = false) (by decide +kernel) h
  simp only [Bool.or_eq_false_iff, beq_eq_false_iff_ne] at none
  obtain ⟨⟨⟨alphabetic, numeric⟩, notLow⟩, notDash⟩ := none
  have low : c ≠ '_' := by
    intro eq
    subst eq
    exact notLow rfl
  have dash : c ≠ '-' := by
    intro eq
    subst eq
    exact notDash rfl
  simp [isWordPart, isAlphanumeric, isAlphabetic, isNumeric, Span.holdsChar, isJoiner, alphabetic,
    numeric, low, dash]

/-- A letter or a figure joins no words. -/
lemma isJoiner_of_isAlphanumeric {c : Char} (h : isAlphanumeric c = true) : isJoiner c = false := by
  have low : isAlphanumeric '_' = false := by decide +kernel
  have dash : isAlphanumeric '-' = false := by decide +kernel
  simp only [isJoiner, Bool.or_eq_false_iff, beq_eq_false_iff_ne]
  constructor
  · intro eq
    subst eq
    rw [low] at h
    cases h
  · intro eq
    subst eq
    rw [dash] at h
    cases h

/-- The humps make up the word. -/
lemma flatten_humps (word : List Char) : (humps word).flatten = word := by
  induction word using humps.induct with
  | case1 => rfl
  | case2 c => rfl
  | case3 c d rest none ih =>
    rw [none] at ih
    cases ih
  | case4 c d rest hump others some cut ih =>
    rw [some] at ih
    simp only [humps, some, cut, if_true]
    simpa using ih
  | case5 c d rest hump others some notCut ih =>
    rw [some] at ih
    simp only [humps, some, notCut]
    simpa using ih

/-- The parts of a word, put together, are the word without its joiners. -/
lemma flatten_parts (word : List Char) : (parts word).flatten = word.filter (!isJoiner ·) := by
  -- Breaking the pieces into humps leaves them the same when they are put together again.
  have flatten_flatMap (l : List (List Char)) : (l.flatMap humps).flatten = l.flatten := by
    induction l with
    | nil => rfl
    | cons piece others ih => simp [flatten_humps, ih]
  rw [parts, List.flatten_filter_not_isEmpty, flatten_flatMap, flatten_pieces]

/-- No part of a word is empty. -/
lemma ne_nil_of_mem_parts {word part : List Char} (h : part ∈ parts word) : part ≠ [] := by
  have := (List.mem_filter.mp h).2
  simpa using this

/-- The forms of a word are its parts, and all of them joined. -/
lemma mem_forms_iff {word form : List Char} :
    form ∈ forms word ↔
      form ∈ parts word ∨ form = word.filter (!isJoiner ·) ∧ parts word ≠ [] := by
  rw [← flatten_parts, forms]
  split
  · rename_i several
    have some : parts word ≠ [] := List.ne_nil_of_length_pos (Nat.lt_of_succ_lt several)
    simp [some]
  · rename_i notSeveral
    cases h : parts word with
    | nil => simp
    | cons part others =>
      -- A single part is what joining it gives.
      have none : others = [] := by simpa [h] using notSeveral
      simp [none]

/-- The forms of the words of a text. -/
def formsOf (text : List Char) : List (List Char) :=
  (wordsOf text).flatMap forms

/-- No form of a text is empty. -/
lemma ne_nil_of_mem_formsOf {text form : List Char} (mem : form ∈ formsOf text) : form ≠ [] := by
  obtain ⟨word, -, mem⟩ := List.mem_flatMap.mp mem
  cases mem_forms_iff.mp mem with
  | inl part => exact ne_nil_of_mem_parts part
  | inr joined =>
    obtain ⟨rfl, some⟩ := joined
    obtain ⟨part, memPart⟩ := List.exists_mem_of_ne_nil _ some
    rw [← flatten_parts]
    intro nil
    exact ne_nil_of_mem_parts memPart (List.flatten_eq_nil_iff.mp nil part memPart)

/-- A form has the stem of its lowercased letters as its term, unless it is a stop word that is
dropped. -/
lemma ofForm?_eq_some_iff {mode : Mode} {form t : List Char} (ne : form ≠ []) :
    ofForm? mode form = some t ↔
      (mode = .dropStopWords → isStopWord (lowercase form) = false) ∧
        stem (lowercase form) = t := by
  have stemNe := stem_ne_nil (lowercase_ne_nil ne)
  cases mode with
  | dropStopWords => cases stop : isStopWord (lowercase form) <;> simp [ofForm?, stop, stemNe]
  | keepStopWords => simp [ofForm?, stemNe]

/-- The terms of a text are the stems of its forms, stop words aside if they are to be left out. -/
theorem mem_ofText_iff {mode : Mode} {text t : List Char} :
    t ∈ ofText mode text ↔
      ∃ form ∈ formsOf text,
        (mode = .dropStopWords → isStopWord (lowercase form) = false) ∧
          stem (lowercase form) = t := by
  rw [ofText, List.mem_filterMap]
  apply exists_congr
  intro form
  apply and_congr_right
  intro mem
  exact ofForm?_eq_some_iff (ne_nil_of_mem_formsOf mem)

/-- Leaving stop words out of the terms of a text takes only terms away. -/
theorem ofText_dropStopWords_subset (text : List Char) :
    ofText .dropStopWords text ⊆ ofText .keepStopWords text := by
  intro term mem
  obtain ⟨form, memForm, -, eq⟩ := mem_ofText_iff.mp mem
  exact mem_ofText_iff.mpr ⟨form, memForm, nofun, eq⟩

/-- A text with a letter or a digit in it has a term if stop words are kept. -/
theorem ofText_keepStopWords_ne_nil {text : List Char} {c : Char} (mem : c ∈ text)
    (alphanumeric : isAlphanumeric c = true) : ofText .keepStopWords text ≠ [] := by
  have wordPart : isWordPart c = true := by simp [isWordPart, alphanumeric]
  -- The character is followed through the words of the text to a part of one of them.
  have inWords : c ∈ (wordsOf text).flatten := by
    rw [wordsOf, flatten_runs]
    exact List.mem_filter.mpr ⟨mem, by simp [wordPart]⟩
  obtain ⟨word, memWord, inWord⟩ := List.mem_flatten.mp inWords
  have inParts : c ∈ (parts word).flatten := by
    rw [flatten_parts]
    exact List.mem_filter.mpr ⟨inWord, by simp [isJoiner_of_isAlphanumeric alphanumeric]⟩
  obtain ⟨part, memPart, -⟩ := List.mem_flatten.mp inParts
  have memForm : part ∈ formsOf text :=
    List.mem_flatMap.mpr ⟨word, memWord, mem_forms_iff.mpr (.inl memPart)⟩
  exact List.ne_nil_of_mem (mem_ofText_iff.mpr ⟨part, memForm, nofun, rfl⟩)

/-- The words on both sides of a cut are taken apart. -/
lemma wordsOf_append_cons {c : Char} (cut : isWordPart c = false) (s t : List Char) :
    wordsOf (s ++ c :: t) = wordsOf s ++ wordsOf t := by
  apply runs_append_cons
  simp [cut]

/-- What cuts before and after a text adds no words. -/
lemma wordsOf_between {before after : List Char} (starts : ∀ c ∈ before, isWordPart c = false)
    (ends : ∀ c ∈ after, isWordPart c = false) (text : List Char) :
    wordsOf (before ++ text ++ after) = wordsOf text := by
  apply runs_between_cuts
  · simpa using starts
  · simpa using ends

/-- Where a text is cut between words, its terms are those of the two sides. -/
theorem ofText_append_cons {c : Char} (cut : isWordPart c = false) (mode : Mode)
    (s t : List Char) : ofText mode (s ++ c :: t) = ofText mode s ++ ofText mode t := by
  rw [ofText, wordsOf_append_cons cut, List.flatMap_append, List.filterMap_append]
  rfl

/-- Characters that are no parts of words add no terms at the ends of a text. -/
theorem ofText_between {before after : List Char} (starts : ∀ c ∈ before, isWordPart c = false)
    (ends : ∀ c ∈ after, isWordPart c = false) (mode : Mode) (text : List Char) :
    ofText mode (before ++ text ++ after) = ofText mode text := by
  rw [ofText, wordsOf_between starts ends, ofText]

/-- Blanks at the ends of a text do not change its terms. -/
theorem ofText_trim (mode : Mode) (text : List Char) :
    ofText mode (trim text) = ofText mode text := by
  obtain ⟨before, after, eq, starts, ends⟩ := exists_eq_append_trim text
  conv_rhs => rw [eq]
  exact (ofText_between (fun c mem => isWordPart_of_isBlank (starts c mem))
    (fun c mem => isWordPart_of_isBlank (ends c mem)) mode _).symm

end Term
end PageSearch
