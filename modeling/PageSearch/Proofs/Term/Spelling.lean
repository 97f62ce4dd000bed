import PageSearch.Proofs.Term.Words

/-!
# Spellings of a word

A compound word can be written with joiners, with capitals inside or in one piece. Its spellings
agree in the squashed word, which has no joiners and only small letters. Whatever parts a spelling
falls into, all of them joined are one of its forms, so that every spelling has the stem of the
squashed word among its terms, unless that word is a stop word that is to be left out.
-/

namespace PageSearch.Term

open Text

/-- A word stands in a text: it is a run of letters, digits, `_` and `-` that nothing extends. -/
def WordIn (word text : List Char) : Prop :=
  IsRun (!isWordPart ·) word text

/-- A word without `_` and `-`, in small letters. -/
def squash (word : List Char) : List Char :=
  lowercase (word.filter (!isJoiner ·))

section

variable {word text : List Char}

/-- A text that consists of word parts is a word in itself. -/
lemma wordIn_self (ne : word ≠ []) (all : ∀ c ∈ word, isWordPart c = true) : WordIn word word :=
  isRun_self ne (by simpa using all)

/-- The words of a text are its longest stretches of word characters. -/
lemma mem_wordsOf_iff : word ∈ wordsOf text ↔ WordIn word text :=
  mem_runs_iff

/-- However a word of a text is written, the stem of the squashed word is a term of the text. -/
theorem stem_squash_mem_ofText (mode : Mode) (stands : WordIn word text) (ne : squash word ≠ [])
    (other : isStopWord (squash word) = false) : stem (squash word) ∈ ofText mode text := by
  have some : parts word ≠ [] := by
    intro none
    have joined : word.filter (!isJoiner ·) = [] := by simp [← flatten_parts, none]
    rw [squash, joined] at ne
    exact ne rfl
  have memForm : word.filter (!isJoiner ·) ∈ formsOf text :=
    List.mem_flatMap.mpr ⟨word, mem_wordsOf_iff.mpr stands, mem_forms_iff.mpr (.inr ⟨rfl, some⟩)⟩
  exact mem_ofText_iff.mpr ⟨_, memForm, fun _ => other, rfl⟩

end

end PageSearch.Term
