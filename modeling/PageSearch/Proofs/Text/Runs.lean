import Mathlib.Data.List.Basic
import Mathlib.Data.List.DropRight
import Mathlib.Data.List.Induction
import Mathlib.Data.List.TakeWhile
import PageSearch.Proofs.Text.Blank

/-!
# The runs of a text

The runs of a text are the stretches between the characters that it is cut at, as long as they can
be and none of them empty. Where a text is cut, its runs are those of the two sides, so that cuts at
its ends do not matter, and runs that are put together again with a cut between them are the runs of
the whole. To trim a text is to take the blanks from its ends.
-/

namespace PageSearch
namespace Text

/-- There is always a piece. -/
lemma pieces_ne_nil (p : Char → Bool) (s : List Char) : pieces p s ≠ [] := by
  cases s with
  | nil => simp [pieces]
  | cons c rest =>
    simp only [pieces]
    split
    · simp
    · split <;> simp

/-- A cut takes a text apart into the pieces of its two sides. -/
lemma pieces_append_cons {p : Char → Bool} {c : Char} (cut : p c = true) (s t : List Char) :
    pieces p (s ++ c :: t) = pieces p s ++ pieces p t := by
  induction s with
  | nil => simp [pieces, cut]
  | cons d rest ih =>
    simp only [List.cons_append, pieces]
    by_cases cutHere : p d = true
    · simp [cutHere, ih]
    · -- `d` goes into the first piece of the rest, which is there on both sides.
      simp only [cutHere, Bool.false_eq_true, if_false, ih]
      cases h : pieces p rest with
      | nil => exact absurd h (pieces_ne_nil p rest)
      | cons piece others => rfl

/-- The runs on both sides of a cut are taken apart. -/
lemma runs_append_cons {p : Char → Bool} {c : Char} (cut : p c = true) (s t : List Char) :
    runs p (s ++ c :: t) = runs p s ++ runs p t := by
  simp [runs, pieces_append_cons cut]

/-- A cut at the start of a text adds no run. -/
lemma runs_cons_of_cut {p : Char → Bool} {c : Char} (cut : p c = true) (s : List Char) :
    runs p (c :: s) = runs p s := by
  simp [runs, pieces, cut]

/-- The pieces have all characters that do not cut. -/
lemma flatten_pieces (p : Char → Bool) (s : List Char) :
    (pieces p s).flatten = s.filter (!p ·) := by
  induction s with
  | nil => rfl
  | cons c rest ih =>
    simp only [pieces]
    by_cases cut : p c = true
    · simp [cut, ih]
    · simp only [cut, Bool.false_eq_true, if_false]
      cases h : pieces p rest with
      | nil => exact absurd h (pieces_ne_nil p rest)
      | cons piece others =>
        rw [h] at ih
        simpa [cut] using ih

/-- So have the runs. -/
lemma flatten_runs (p : Char → Bool) (s : List Char) : (runs p s).flatten = s.filter (!p ·) := by
  rw [runs, List.flatten_filter_not_isEmpty, flatten_pieces]

/-- Where every character cuts there is no run. -/
lemma runs_eq_nil {p : Char → Bool} {s : List Char} (cuts : ∀ c ∈ s, p c = true) :
    runs p s = [] := by
  induction s with
  | nil => rfl
  | cons c rest ih =>
    simp only [List.forall_mem_cons] at cuts
    rw [runs_cons_of_cut cuts.1, ih cuts.2]

/-- Cuts at the ends of a text add no runs. -/
lemma runs_between_cuts {p : Char → Bool} {before after : List Char}
    (starts : ∀ c ∈ before, p c = true) (ends : ∀ c ∈ after, p c = true) (s : List Char) :
    runs p (before ++ s ++ after) = runs p s := by
  have dropEnd : runs p (s ++ after) = runs p s := by
    cases after with
    | nil => rw [List.append_nil]
    | cons c rest =>
      simp only [List.forall_mem_cons] at ends
      rw [runs_append_cons ends.1, runs_eq_nil ends.2, List.append_nil]
  rw [List.append_assoc]
  induction before with
  | nil => exact dropEnd
  | cons c rest ih =>
    simp only [List.forall_mem_cons] at starts
    rw [List.cons_append, runs_cons_of_cut starts.1, ih starts.2]

/-- What is trimmed from the end of a text are blanks. -/
lemma exists_eq_trimEnd_append (s : List Char) :
    ∃ blanks, s = trimEnd s ++ blanks ∧ ∀ c ∈ blanks, isBlank c = true :=
  ⟨s.rtakeWhile isBlank, List.rdropWhile_append_rtakeWhile.symm,
    fun _ mem => List.mem_rtakeWhile_imp mem⟩

/-- No blank ends a text that was trimmed there. -/
lemma isBlank_getLast?_trimEnd (s : List Char) : ∀ c ∈ (trimEnd s).getLast?, isBlank c = false := by
  intro c last
  obtain ⟨ne, rfl⟩ := List.mem_getLast?_eq_getLast last
  exact Bool.eq_false_iff.mpr (List.rdropWhile_last_not isBlank s ne)

/-- A text is what trimming leaves of it, between blanks. -/
lemma exists_eq_append_trim (s : List Char) :
    ∃ before after, s = before ++ trim s ++ after ∧ (∀ c ∈ before, isBlank c = true) ∧
      ∀ c ∈ after, isBlank c = true := by
  obtain ⟨after, whole, blank⟩ := exists_eq_trimEnd_append (trimStart s)
  refine ⟨s.takeWhile isBlank, after, ?_, fun c mem => List.mem_takeWhile_imp mem, blank⟩
  rw [List.append_assoc, trim, ← whole, trimStart, List.takeWhile_append_dropWhile]

/-- What is kept of a text is all of it but the blanks at its ends. -/
structure Trims (s kept : List Char) : Prop where
  around : ∃ before after, s = before ++ kept ++ after ∧ (∀ c ∈ before, isBlank c = true) ∧
    ∀ c ∈ after, isBlank c = true
  first : ∀ c ∈ kept.head?, isBlank c = false
  last : ∀ c ∈ kept.getLast?, isBlank c = false

/-- Trimming keeps all but the blanks at the ends. -/
theorem trims_trim (s : List Char) : Trims s (trim s) := by
  refine ⟨exists_eq_append_trim s, ?_, isBlank_getLast?_trimEnd _⟩
  intro c first
  -- What is trimmed at the end leaves the first character, if it leaves any.
  obtain ⟨after, whole, -⟩ := exists_eq_trimEnd_append (trimStart s)
  have kept : (trimEnd (trimStart s)).head? = some c := first
  have start : (s.dropWhile isBlank).head? = some c := by
    rw [← trimStart, whole, List.head?_append, kept]
    rfl
  have letter := List.head?_dropWhile_not isBlank s
  rw [start] at letter
  exact letter

/-- A text is without a cut, or it is cut for the first time somewhere. -/
lemma uncut_or_exists_cut (p : Char → Bool) (s : List Char) :
    (∀ c ∈ s, p c = false) ∨
      ∃ before c after, s = before ++ c :: after ∧ p c = true ∧ ∀ d ∈ before, p d = false := by
  induction s with
  | nil => exact .inl (by simp)
  | cons d rest ih =>
    by_cases cut : p d = true
    · exact .inr ⟨[], d, rest, rfl, cut, by simp⟩
    · have uncut : p d = false := by simpa using cut
      cases ih with
      | inl none => exact .inl (by simpa using ⟨uncut, none⟩)
      | inr first =>
        obtain ⟨before, c, after, rfl, cut, others⟩ := first
        exact .inr ⟨d :: before, c, after, rfl, cut, by simpa using ⟨uncut, others⟩⟩

/-- Where none does the text is one piece. -/
lemma pieces_of_uncut {p : Char → Bool} {s : List Char} (uncut : ∀ c ∈ s, p c = false) :
    pieces p s = [s] := by
  induction s with
  | nil => rfl
  | cons c rest ih =>
    simp only [List.forall_mem_cons] at uncut
    simp [pieces, uncut.1, ih uncut.2]

/-- It is one run, unless it is empty. -/
lemma runs_of_uncut {p : Char → Bool} {s : List Char} (ne : s ≠ [])
    (uncut : ∀ c ∈ s, p c = false) : runs p s = [s] := by
  simp [runs, pieces_of_uncut uncut, ne]

/-- A run of a text has no cut in it, and the text is cut where it starts and where it ends. -/
def IsRun (p : Char → Bool) (run text : List Char) : Prop :=
  run ≠ [] ∧ (∀ c ∈ run, p c = false) ∧
    ∃ before after, text = before ++ run ++ after ∧
      (∀ c ∈ before.getLast?, p c = true) ∧ ∀ c ∈ after.head?, p c = true

/-- A text without a cut is a run of itself. -/
lemma isRun_self {p : Char → Bool} {run : List Char} (ne : run ≠ [])
    (uncut : ∀ c ∈ run, p c = false) : IsRun p run run :=
  ⟨ne, uncut, [], [], by simp, by simp, by simp⟩

/-- A longest stretch without cuts is one of the runs. -/
lemma mem_runs_of_isRun {p : Char → Bool} {run text : List Char} (h : IsRun p run text) :
    run ∈ runs p text := by
  obtain ⟨ne, uncut, before, after, rfl, starts, ends⟩ := h
  have own : run ∈ runs p run := by simp [runs_of_uncut ne uncut]
  have untilEnd : run ∈ runs p (run ++ after) := by
    cases after with
    | nil => simpa using own
    | cons c after =>
      rw [runs_append_cons (ends c rfl)]
      exact List.mem_append_left _ own
  rw [List.append_assoc]
  -- What comes before the run is nothing, or it ends with a cut.
  cases before using List.reverseRecOn with
  | nil => simpa using untilEnd
  | append_singleton before c =>
    rw [List.append_assoc, List.singleton_append, runs_append_cons (starts c (by simp))]
    exact List.mem_append_right _ untilEnd

/-- After a cut the runs of a text stay what they are. -/
lemma IsRun.after_cut {p : Char → Bool} {c : Char} {run before text : List Char}
    (cut : p c = true) (h : IsRun p run text) : IsRun p run (before ++ c :: text) := by
  obtain ⟨ne, uncut, start, rest, rfl, starts, ends⟩ := h
  refine ⟨ne, uncut, before ++ c :: start, rest, by simp, ?_, ends⟩
  intro d last
  -- Nothing comes before the run within `text`, or what does is still the last before it.
  cases start using List.reverseRecOn with
  | nil =>
    have eq : c = d := by simpa using last
    exact eq ▸ cut
  | append_singleton start e =>
    rw [← List.cons_append, ← List.append_assoc, List.getLast?_concat] at last
    exact starts d (by simpa using last)

/-- What cutting a text gives are its runs. -/
theorem mem_runs_iff {p : Char → Bool} {run text : List Char} :
    run ∈ runs p text ↔ IsRun p run text := by
  refine ⟨fun mem => ?_, mem_runs_of_isRun⟩
  rcases uncut_or_exists_cut p text with uncut | ⟨before, c, after, rfl, cut, uncut⟩
  · -- Without a cut the text itself is its only run.
    by_cases none : text = []
    · simp [none, runs, pieces] at mem
    · rw [runs_of_uncut none uncut, List.mem_singleton] at mem
      subst mem
      exact isRun_self none uncut
  · rw [runs_append_cons cut, List.mem_append] at mem
    cases mem with
    | inl first =>
      by_cases none : before = []
      · simp [none, runs, pieces] at first
      · rw [runs_of_uncut none uncut, List.mem_singleton] at first
        subst first
        exact ⟨none, uncut, [], c :: after, rfl, by simp, by simpa using cut⟩
    | inr later => exact (mem_runs_iff.mp later).after_cut cut
termination_by text.length

/-- Texts with a cut between them have the runs of each. -/
lemma runs_intercalate {p : Char → Bool} {c : Char} (cut : p c = true) (texts : List (List Char)) :
    runs p ([c].intercalate texts) = texts.flatMap (runs p) := by
  induction texts with
  | nil => rfl
  | cons s rest ih =>
    cases rest with
    | nil => simp
    | cons t rest =>
      rw [List.intercalate_cons_cons, List.append_assoc, List.singleton_append,
        runs_append_cons cut, ih]
      rfl

/-- The words of a text stay the same when there is one space between any two of them. -/
theorem words_collapse (s : List Char) : words (collapse s) = words s := by
  have single : ∀ word ∈ words s, words word = [word] := by
    intro word mem
    obtain ⟨ne, uncut, -⟩ := mem_runs_iff.mp mem
    exact runs_of_uncut ne uncut
  calc words (collapse s)
      = (words s).flatMap words := runs_intercalate isBlank_space (words s)
    _ = (words s).flatMap fun word => [word] := List.flatMap_congr single
    _ = words s := List.flatMap_singleton' (words s)

/-- To collapse a text twice is to do it once. -/
lemma collapse_collapse (s : List Char) : collapse (collapse s) = collapse s := by
  rw [collapse, words_collapse, collapse]

/-- Only blanks change when a text is collapsed. -/
lemma filter_collapse (s : List Char) :
    (collapse s).filter (!isBlank ·) = s.filter (!isBlank ·) := by
  have same := congrArg List.flatten (words_collapse s)
  rwa [words, words, flatten_runs, flatten_runs] at same

/-- A character that is kept was there. -/
lemma mem_of_mem_collapse {c : Char} {s : List Char} (other : isBlank c = false)
    (h : c ∈ collapse s) : c ∈ s := by
  have kept : c ∈ (collapse s).filter (!isBlank ·) := by simp [h, other]
  rw [filter_collapse] at kept
  exact List.mem_of_mem_filter kept

end Text
end PageSearch
