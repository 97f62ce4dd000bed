import Mathlib.Data.List.Infix
import Mathlib.Tactic.Lemma
import PageSearch.Markup.Pattern

/-!
# Replacing from left to right

One step of a replacement: where the pattern fails, a character stays, and where it matches, the
replacement takes the place of the characters that it took. A pattern that matches at one character
only leaves a text without that character as it is, whatever follows the text.
-/

namespace PageSearch.Markup

section

variable {c d : Char} {s t : List Char}

/-- The text after the first `c`: what comes before it is without `c`. -/
lemma dropThrough_eq_some_iff :
    dropThrough c s = some t ↔ ∃ before, s = before ++ c :: t ∧ c ∉ before := by
  induction s with
  | nil => simp [dropThrough]
  | cons d rest ih =>
    by_cases here : d = c
    · subst here
      simp only [dropThrough, if_true, Option.some.injEq]
      constructor
      · intro eq
        exact ⟨[], by simp [eq], by simp⟩
      · intro h
        obtain ⟨before, eq, absent⟩ := h
        cases before with
        | nil => exact (List.cons.inj eq).2
        | cons e before => exact absurd (by simp [(List.cons.inj eq).1]) absent
    · simp only [dropThrough, here, if_false, ih]
      constructor
      · intro h
        obtain ⟨before, rfl, absent⟩ := h
        exact ⟨d :: before, rfl, by simp [absent, Ne.symm here]⟩
      · intro h
        obtain ⟨before, eq, absent⟩ := h
        cases before with
        | nil => exact absurd (List.cons.inj eq).1 here
        | cons e before =>
          exact ⟨before, (List.cons.inj eq).2, fun mem => absent (List.mem_cons_of_mem _ mem)⟩

/-- A text has one first place of a character. -/
lemma append_cons_inj {before before' after after' : List Char} (absent : c ∉ before)
    (absent' : c ∉ before') (eq : before ++ c :: after = before' ++ c :: after') :
    before = before' ∧ after = after' := by
  have taken : dropThrough c (before ++ c :: after) = some after :=
    dropThrough_eq_some_iff.mpr ⟨before, rfl, absent⟩
  have taken' : dropThrough c (before ++ c :: after) = some after' :=
    dropThrough_eq_some_iff.mpr ⟨before', eq, absent'⟩
  rw [taken] at taken'
  cases taken'
  exact ⟨List.append_cancel_right eq, rfl⟩

/-- What is taken up to the first `c`. -/
lemma takeWhile_ne_append (absent : c ∉ s) (t : List Char) :
    (s ++ c :: t).takeWhile (· ≠ c) = s := by
  rw [List.takeWhile_append_of_pos]
  · simp
  · intro d mem
    have other : d ≠ c := fun eq => absent (eq ▸ mem)
    simp [other]

/-- What starts a text goes up to any character that it is without, and no further. -/
lemma isPrefix_of_isPrefix_append_cons {start : List Char} (absent : c ∉ start)
    (h : start <+: s ++ c :: t) : start <+: s := by
  rcases List.prefix_or_prefix_of_prefix h (List.prefix_append s _) with within | beyond
  · exact within
  · obtain ⟨more, rfl⟩ := beyond
    rw [List.prefix_append_right_inj] at h
    cases more with
    | nil => simp
    | cons d more =>
      obtain ⟨rfl, -⟩ := List.cons_prefix_cons.mp h
      exact absurd (by simp) absent

/-- What is in a text with a character that it is without is on one side of that character. -/
lemma isInfix_or_of_isInfix_append_cons {run : List Char} (absent : c ∉ run)
    (h : run <:+: s ++ c :: t) : run <:+: s ∨ run <:+: t := by
  -- By the start of the run: at the front of the text, or further on.
  induction s with
  | nil =>
    rw [List.nil_append, List.infix_cons_iff] at h
    rcases h with start | later
    · have none : run <+: [] := isPrefix_of_isPrefix_append_cons absent start
      exact .inl none.isInfix
    · exact .inr later
  | cons d s ih =>
    have whole := h
    rw [List.cons_append, List.infix_cons_iff, ← List.cons_append] at whole
    rcases whole with start | later
    · exact .inl (isPrefix_of_isPrefix_append_cons absent start).isInfix
    · exact (ih later).imp_left fun within => within.trans (List.suffix_cons d s).isInfix

/-- The text after the first place where an ending matches. -/
lemma dropThroughFirst_eq_some_iff {ending : List Char → Option (List Char)} :
    dropThroughFirst ending s = some t ↔
      ∃ before after, s = before ++ after ∧ ending after = some t ∧
        ∀ tail, tail <:+ before → tail ≠ [] → ending (tail ++ after) = none := by
  induction s with
  | nil =>
    rw [dropThroughFirst]
    constructor
    · intro h
      exact ⟨[], [], rfl, h, by simp⟩
    · intro h
      obtain ⟨before, after, eq, ends, -⟩ := h
      obtain ⟨rfl, rfl⟩ := List.nil_eq_append_iff.mp eq
      exact ends
  | cons c rest ih =>
    rw [dropThroughFirst]
    -- The ending matches here, or the search goes on behind the first character.
    cases here : ending (c :: rest) with
    | some u =>
      simp only [Option.some.injEq]
      constructor
      · intro eq
        exact ⟨[], c :: rest, rfl, eq ▸ here, by simp⟩
      · intro h
        obtain ⟨before, after, eq, ends, first⟩ := h
        by_cases none : before = []
        · subst none
          rw [eq, List.nil_append, ends] at here
          exact (Option.some.inj here).symm
        · have fails := first before (List.suffix_refl before) none
          rw [← eq, here] at fails
          cases fails
    | none =>
      simp only [ih]
      constructor
      · intro h
        obtain ⟨before, after, rfl, ends, first⟩ := h
        refine ⟨c :: before, after, rfl, ends, ?_⟩
        intro tail suffix ne
        rcases List.suffix_cons_iff.mp suffix with rfl | suffix
        · exact here
        · exact first tail suffix ne
      · intro h
        obtain ⟨before, after, eq, ends, first⟩ := h
        cases before with
        | nil =>
          rw [eq, List.nil_append, ends] at here
          cases here
        | cons d before =>
          refine ⟨before, after, (List.cons.inj eq).2, ends, ?_⟩
          intro tail suffix
          exact first tail (suffix.trans (List.suffix_cons d before))

/-- There is nothing after an ending that matches at no place. -/
lemma dropThroughFirst_eq_none_iff {ending : List Char → Option (List Char)} :
    dropThroughFirst ending s = none ↔ ∀ tail, tail <:+ s → ending tail = none := by
  induction s with
  | nil => simp [dropThroughFirst]
  | cons c rest ih =>
    rw [dropThroughFirst]
    cases here : ending (c :: rest) with
    | some u =>
      simp only [reduceCtorEq, false_iff, not_forall]
      exact ⟨c :: rest, List.suffix_refl _, by simp [here]⟩
    | none =>
      simp only [ih]
      constructor
      · intro fails tail suffix
        rcases List.suffix_cons_iff.mp suffix with rfl | suffix
        · exact here
        · exact fails tail suffix
      · intro fails tail suffix
        exact fails tail (suffix.trans (List.suffix_cons c rest))

end

namespace Pattern

variable {pattern : Pattern} {c : Char} {s rest after replacement run : List Char}

/-- Nothing is replaced in an empty text. -/
@[simp]
lemma replaceAll_nil : pattern.replaceAll [] = [] := by
  rw [replaceAll]

/-- Where a pattern does not match, a character is kept. -/
lemma replaceAll_of_none (fails : pattern (c :: rest) = none) :
    pattern.replaceAll (c :: rest) = c :: pattern.replaceAll rest := by
  rw [replaceAll, fails]

/-- Where it matches, its replacement stands, and the rest is gone through after the match. -/
lemma replaceAll_of_some (found : pattern (c :: rest) = some (replacement, after))
    (le : after.length ≤ rest.length) :
    pattern.replaceAll (c :: rest) = replacement ++ pattern.replaceAll after := by
  rw [replaceAll, found]
  exact if_pos le

/-- Every match of a pattern starts with a certain character. -/
def StartsWith (pattern : Pattern) (c : Char) : Prop :=
  ∀ d rest, d ≠ c → pattern (d :: rest) = none

/-- A text without the character that all matches start with stays as it is. -/
lemma StartsWith.replaceAll_append {s : List Char} (starts : pattern.StartsWith c)
    (absent : c ∉ s) (t : List Char) :
    pattern.replaceAll (s ++ t) = s ++ pattern.replaceAll t := by
  induction s with
  | nil => rfl
  | cons d rest ih =>
    simp only [List.mem_cons, not_or] at absent
    rw [List.cons_append, replaceAll_of_none (starts d _ (Ne.symm absent.1)), ih absent.2,
      List.cons_append]

/-- So does one that has no such character at all. -/
lemma StartsWith.replaceAll_eq {s : List Char} (starts : pattern.StartsWith c) (absent : c ∉ s) :
    pattern.replaceAll s = s := by
  simpa using starts.replaceAll_append absent []

/-- Another character in front is kept. -/
lemma StartsWith.replaceAll_cons (starts : pattern.StartsWith c) {d : Char} (other : d ≠ c)
    (s : List Char) : pattern.replaceAll (d :: s) = d :: pattern.replaceAll s :=
  replaceAll_of_none (starts d s other)

/-- A pattern that fails at every place of a text leaves it as it is. -/
lemma replaceAll_eq_self (fails : ∀ tail, tail <:+ s → pattern tail = none) :
    pattern.replaceAll s = s := by
  induction s with
  | nil => exact replaceAll_nil
  | cons c rest ih =>
    rw [replaceAll_of_none (fails _ (List.suffix_refl _)),
      ih fun tail suffix => fails tail (suffix.trans (List.suffix_cons c rest))]

/-- A pattern puts a space in the place of what it takes. -/
def LeavesSpace (pattern : Pattern) : Prop :=
  ∀ s replacement after, pattern s = some (replacement, after) →
    replacement = [' '] ∧ after <:+ s

/-- A step of the replacement keeps a character, or goes on after a space. -/
lemma LeavesSpace.replaceAll_cons (leaves : pattern.LeavesSpace) (c : Char) (rest : List Char) :
    pattern.replaceAll (c :: rest) = c :: pattern.replaceAll rest ∨
      ∃ after, after <:+ rest ∧
        pattern.replaceAll (c :: rest) = ' ' :: pattern.replaceAll after := by
  rw [replaceAll]
  split
  · exact .inl rfl
  · rename_i replacement after found
    obtain ⟨rfl, suffix⟩ := leaves _ _ _ found
    split
    · rename_i le
      rcases List.suffix_cons_iff.mp suffix with rfl | shorter
      · exact absurd le (Nat.not_succ_le_self _)
      · exact .inr ⟨after, shorter, rfl⟩
    · exact .inl rfl

/-- A text without a space that comes first after a replacement came first before it. -/
lemma LeavesSpace.isPrefix (leaves : pattern.LeavesSpace) (noSpace : ' ' ∉ run)
    (h : run <+: pattern.replaceAll s) : run <+: s := by
  induction run generalizing s with
  | nil => exact List.nil_prefix
  | cons d run ih =>
    simp only [List.mem_cons, not_or] at noSpace
    cases s with
    | nil => rwa [replaceAll_nil] at h
    | cons c rest =>
      rcases leaves.replaceAll_cons c rest with kept | ⟨after, -, spaced⟩
      · rw [kept, List.cons_prefix_cons] at h
        exact List.cons_prefix_cons.mpr ⟨h.1, ih noSpace.2 h.2⟩
      · rw [spaced, List.cons_prefix_cons] at h
        exact absurd h.1.symm noSpace.1

/-- Spaces bring no characters together: a text without a space that is there after a replacement
was there before it. -/
lemma LeavesSpace.isInfix {s : List Char} (leaves : pattern.LeavesSpace) (noSpace : ' ' ∉ run)
    (ne : run ≠ []) (h : run <:+: pattern.replaceAll s) : run <:+: s := by
  cases s with
  | nil => rwa [replaceAll_nil] at h
  | cons c rest =>
    rcases leaves.replaceAll_cons c rest with kept | ⟨after, suffix, spaced⟩
    · have start : run <+: pattern.replaceAll (c :: rest) → run <+: c :: rest :=
        leaves.isPrefix noSpace
      rw [kept] at h start
      rw [List.infix_cons_iff] at h ⊢
      exact h.imp start (leaves.isInfix noSpace ne)
    · have le : after.length ≤ rest.length := suffix.length_le
      rw [spaced, List.infix_cons_iff] at h
      rcases h with start | later
      · obtain ⟨d, run, rfl⟩ := List.exists_cons_of_ne_nil ne
        obtain ⟨rfl, -⟩ := List.cons_prefix_cons.mp start
        exact absurd List.mem_cons_self noSpace
      · have within : run <:+: after := leaves.isInfix noSpace ne later
        exact (within.trans suffix.isInfix).trans (List.suffix_cons c rest).isInfix
termination_by s.length
decreasing_by all_goals grind

/-- A character that is left, and is no space, was there. -/
lemma LeavesSpace.mem (leaves : pattern.LeavesSpace) (other : c ≠ ' ')
    (h : c ∈ pattern.replaceAll s) : c ∈ s := by
  rw [← List.singleton_infix_iff] at h ⊢
  exact leaves.isInfix (by simpa using Ne.symm other) (by simp) h

end Pattern

end PageSearch.Markup
