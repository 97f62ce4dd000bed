import Mathlib.Tactic.Lemma
import PageSearch.Text.Blank
import PageSearch.Text.Letter

/-!
# Blanks and other characters

Blanks are given by spans of code points, so what is to be shown of every blank is shown by going
through these. No blank is a word character.
-/

namespace PageSearch
namespace Text

/-- Spans that hold a code point have one whose ends lie on both sides of it. -/
lemma Span.exists_of_holds {n : Nat} {spans : List Span} (h : Span.holds n spans = true) :
    ∃ s ∈ spans, s.first ≤ n ∧ n ≤ s.last := by
  induction spans with
  | nil => cases h
  | cons s rest ih =>
    simp only [Span.holds] at h
    split at h
    · cases h
    · rename_i notBefore
      split at h
      · rename_i notAfter
        exact ⟨s, List.mem_cons_self, by omega, notAfter⟩
      · obtain ⟨s', mem, ends⟩ := ih h
        exact ⟨s', List.mem_cons_of_mem _ mem, ends⟩

/-- What is so for every code point between the ends of the spans is so for every blank. -/
lemma of_forall_blank {P : Nat → Prop} {c : Char}
    (all : ∀ s ∈ blankSpans, ∀ i ≤ s.last - s.first, P (s.first + i)) (h : isBlank c = true) :
    P c.toNat := by
  obtain ⟨s, mem, first, last⟩ := Span.exists_of_holds h
  have own := all s mem (c.toNat - s.first) (by omega)
  rwa [Nat.add_sub_cancel' first] at own

/-- The space is a blank. -/
lemma isBlank_space : isBlank ' ' = true := by
  decide

/-- No blank is a character of a word. -/
lemma isWordChar_of_isBlank {c : Char} (h : isBlank c = true) : isWordChar c = false := by
  have none : (Span.holds c.toNat alphabeticSpans || Span.holds c.toNat wordSpans) = false :=
    of_forall_blank (P := fun n => (Span.holds n alphabeticSpans || Span.holds n wordSpans) = false)
      (by decide +kernel) h
  simp only [Bool.or_eq_false_iff] at none
  simp [isWordChar, isAlphabetic, Span.holdsChar, none]

end Text
end PageSearch
