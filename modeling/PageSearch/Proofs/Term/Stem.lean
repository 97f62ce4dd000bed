import Mathlib.Tactic.Lemma
import PageSearch.Term.Stem

/-!
# Stems are not empty

No rule takes off a whole word: an ending that goes leaves a vowel before it, or it lies in one of
the two regions, and neither region starts before the second character. So the stem of a word with
a character in it has a character in it.
-/

namespace PageSearch
namespace Stem

/-- A list with a character of some kind is not empty. -/
lemma ne_nil_of_any {p : Char → Bool} {s : List Char} (h : s.any p = true) : s ≠ [] := by
  intro nil
  subst nil
  cases h

/-- A list of at least one character is not empty. -/
lemma ne_nil_of_le {n : Nat} {s : List Char} (pos : 1 ≤ n) (h : n ≤ s.length) : s ≠ [] :=
  List.length_pos_iff.mp (Nat.lt_of_lt_of_le pos h)

/-- What follows the first syllable is shorter than the word. -/
lemma length_afterSyllable_lt {word : List Char} (h : word ≠ []) :
    (afterSyllable word).length < word.length := by
  have outer := (List.dropWhile_suffix (l := word) (!isVowel ·)).length_le
  have inner := (List.dropWhile_suffix (l := word.dropWhile (!isVowel ·)) isVowel).length_le
  have pos := List.length_pos_iff.mpr h
  simp only [afterSyllable, List.length_drop]
  omega

/-- What follows a syllable is no longer than the word. -/
lemma length_afterSyllable_le (word : List Char) : (afterSyllable word).length ≤ word.length := by
  cases word with
  | nil => simp [afterSyllable]
  | cons c rest => exact Nat.le_of_lt (length_afterSyllable_lt (List.cons_ne_nil c rest))

/-- The beginnings that fix a region are not empty. -/
lemma length_pos_of_mem_fixedBeginnings :
    ∀ beginning ∈ fixedBeginnings, 0 < beginning.length := by
  decide

/-- The first region does not start before the second character, nor the second before the first. -/
lemma Regions.one_le_of {word : List Char} (h : word ≠ []) :
    1 ≤ (Regions.of word).first ∧ (Regions.of word).first ≤ (Regions.of word).second := by
  have pos := List.length_pos_iff.mpr h
  simp only [Regions.of]
  -- A fixed beginning has letters, and else the first region begins after a syllable.
  split
  · rename_i beginning found
    have some := length_pos_of_mem_fixedBeginnings _ (List.mem_of_find?_eq_some found)
    have le := length_afterSyllable_le (word.drop beginning.length)
    simp only [List.length_drop] at le ⊢
    omega
  · have lt := length_afterSyllable_lt h
    have le := length_afterSyllable_le (afterSyllable word)
    omega

/-- To mark consonants changes no length. -/
lemma length_markFrom (afterVowel : Bool) (word : List Char) :
    (markFrom afterVowel word).length = word.length := by
  induction word generalizing afterVowel with
  | nil => rfl
  | cons c rest ih =>
    simp only [markFrom]
    split
    · simp [ih]
    · simp [ih]

/-- To mark consonants leaves all letters. -/
lemma mark_ne_nil {word : List Char} (h : word ≠ []) : mark word ≠ [] := by
  unfold mark
  split
  · exact List.cons_ne_nil _ _
  · intro nil
    have := length_markFrom false word
    rw [nil] at this
    exact h (List.length_eq_zero_iff.mp this.symm)

/-- The endings of plurals are cut from longer words. -/
lemma plural_ne_nil {word : List Char} (h : word ≠ []) : plural word ≠ [] := by
  unfold plural
  split
  · simp
  · split <;> simp
  · split <;> simp
  · split
    · rename_i vowel
      intro nil
      subst nil
      cases vowel
    · exact h
  · exact h

/-- What is mended after a participle ending has gone still has its vowel. -/
lemma mend_ne_nil {regions : Regions} {stem : List Char} (h : stem.any isVowel = true) :
    mend regions stem ≠ [] := by
  have ne := ne_nil_of_any h
  unfold mend
  split
  · simp
  · split
    · -- The doubled letter leaves one of its two behind.
      rename_i doubled
      obtain ⟨double, mem, ends⟩ := List.any_eq_true.mp doubled
      have two : double.toList.length = 2 := by
        have all : ∀ d ∈ doubles, d.toList.length = 2 := by decide
        exact all double mem
      have le := (List.isSuffixOf_iff_suffix.mp ends).length_le
      intro nil
      have := congrArg List.length nil
      simp only [List.length_dropLast, List.length_nil] at this
      omega
    · split
      · simp
      · exact ne

/-- Participles are cut behind a vowel. -/
lemma participle_ne_nil {regions : Regions} {word : List Char} (h : word ≠ []) :
    participle regions word ≠ [] := by
  unfold participle
  split
  · split
    · simp
    · exact h
  · split
    · simp
    · exact h
  · split
    · rename_i vowel
      exact mend_ne_nil vowel
    · exact h
  · exact h

/-- A last letter is replaced by another. -/
lemma finalY_ne_nil {word : List Char} (h : word ≠ []) : finalY word ≠ [] := by
  unfold finalY
  split
  · split
    · simp
    · exact h
  · exact h

/-- An ending is replaced in a region that begins behind a letter. -/
lemma second_ne_nil {regions : Regions} {word : List Char} (pos : 1 ≤ regions.first)
    (h : word ≠ []) : second regions word ≠ [] := by
  unfold second
  split
  · split
    · rename_i inRegion
      simp only [Bool.and_eq_true, decide_eq_true_eq] at inRegion
      exact List.append_ne_nil_of_left_ne_nil (ne_nil_of_le pos inRegion.1) _
    · exact h
  · exact h

/-- It is shortened there as well. -/
lemma third_ne_nil {regions : Regions} {word : List Char} (pos : 1 ≤ regions.first)
    (h : word ≠ []) : third regions word ≠ [] := by
  unfold third
  split
  · split
    · rename_i inRegion
      simp only [Bool.and_eq_true, decide_eq_true_eq] at inRegion
      exact List.append_ne_nil_of_left_ne_nil (ne_nil_of_le pos inRegion.1) _
    · exact h
  · exact h

/-- A suffix is dropped in such a region. -/
lemma fourth_ne_nil {regions : Regions} {word : List Char} (pos : 1 ≤ regions.second)
    (h : word ≠ []) : fourth regions word ≠ [] := by
  unfold fourth
  split
  · split
    · rename_i inRegion
      simp only [Bool.and_eq_true, decide_eq_true_eq] at inRegion
      exact ne_nil_of_le pos inRegion.1
    · exact h
  · exact h

/-- So is a last letter. -/
lemma fifth_ne_nil {regions : Regions} {word : List Char} (pos : 1 ≤ regions.first)
    (le : regions.first ≤ regions.second) (h : word ≠ []) : fifth regions word ≠ [] := by
  unfold fifth
  split
  · split
    · rename_i inRegion
      simp only [Bool.or_eq_true, Bool.and_eq_true, decide_eq_true_eq] at inRegion
      rcases inRegion with inSecond | ⟨inFirst, -⟩
      · exact ne_nil_of_le (Nat.le_trans pos le) inSecond
      · exact ne_nil_of_le pos inFirst
    · exact h
  · split
    · rename_i inRegion
      simp only [Bool.and_eq_true, decide_eq_true_eq] at inRegion
      exact ne_nil_of_le (Nat.le_trans pos le) inRegion.1
    · exact h
  · exact h

/-- To take the marks off leaves all letters. -/
lemma unmark_ne_nil {word : List Char} (h : word ≠ []) : unmark word ≠ [] := by
  simpa [unmark] using h

/-- So all steps together leave something of a word. -/
lemma reduce_ne_nil {word : List Char} (h : word ≠ []) : reduce word ≠ [] := by
  -- Each step keeps what comes before its region, and no region begins at the front.
  obtain ⟨pos, le⟩ := Regions.one_le_of (mark_ne_nil h)
  have singular := plural_ne_nil (mark_ne_nil h)
  simp only [reduce]
  split
  · exact unmark_ne_nil singular
  · apply unmark_ne_nil
    apply fifth_ne_nil pos le
    apply fourth_ne_nil (Nat.le_trans pos le)
    apply third_ne_nil pos
    apply second_ne_nil pos
    apply finalY_ne_nil
    exact participle_ne_nil singular

/-- The words of the table have stems that are not empty. -/
lemma ne_nil_of_mem_irregular : ∀ entry ∈ irregular, entry.2.toList ≠ [] := by
  decide

end Stem

/-- The stem of a word with a character in it has a character in it. -/
theorem stem_ne_nil {word : List Char} (h : word ≠ []) : stem word ≠ [] := by
  unfold stem
  split
  · rename_i special found
    obtain ⟨before, after, eq, -⟩ := List.lookup_eq_some_iff.mp found
    apply Stem.ne_nil_of_mem_irregular (String.ofList word, special)
    rw [eq]
    exact List.mem_append_right _ List.mem_cons_self
  · split
    · exact h
    · exact Stem.reduce_ne_nil h

end PageSearch
