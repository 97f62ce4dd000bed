import Mathlib.Data.List.DropRight
import PageSearch.Proofs.Markup.Settled
import PageSearch.Snippet

/-!
# Where a text is cut for a snippet

The snippet of a text that is too long keeps a part of its beginning. If there is a space in the
characters that it may have, not counting one at the start, the cut is at the last such space, so
that no word is cut in two; else it is after the last character. Blanks before the cut go too.

A word that ends with the last character allowed is given up, though it would fit: the character
after it is not looked at. Only there does a snippet of the text of a page keep less than all the
words that fit.
-/

namespace PageSearch

open Text

variable {s text kept : List Char} {most : Nat}

namespace Text

/-- A text that no blank ends is not changed. -/
lemma trimEnd_eq_self (last : ∀ c ∈ s.getLast?, isBlank c = false) : trimEnd s = s := by
  refine List.rdropWhile_eq_self_iff.mpr fun ne => ?_
  rw [last _ (List.getLast?_eq_some_getLast ne)]
  exact Bool.false_ne_true

end Text

/-- A text with a space in it has a last one. -/
lemma exists_last_space (mem : ' ' ∈ s) :
    ∃ before begun, s = before ++ ' ' :: begun ∧ ' ' ∉ begun := by
  obtain ⟨begun, before, eq, none⟩ := List.eq_append_cons_of_mem (List.mem_reverse.mpr mem)
  refine ⟨before.reverse, begun.reverse, ?_, by rwa [List.mem_reverse]⟩
  rw [← List.reverse_inj, eq]
  simp

/-- What stands before a space that is the last one. -/
lemma beforeLastSpace_append_cons {before begun : List Char} (none : ' ' ∉ begun) :
    beforeLastSpace (before ++ ' ' :: begun) = before := by
  have letters : ∀ c ∈ begun.reverse, (decide (c ≠ ' ')) = true := by
    rintro c mem
    refine decide_eq_true ?_
    rintro rfl
    exact none (List.mem_reverse.mp mem)
  rw [beforeLastSpace, List.reverse_append, List.reverse_cons, List.append_assoc,
    List.dropWhile_append_of_pos letters]
  simp

/-- Without a space there is nothing before it. -/
lemma beforeLastSpace_of_not_mem (none : ' ' ∉ s) : beforeLastSpace s = [] := by
  have all : s.reverse.dropWhile (· ≠ ' ') = [] := by
    rw [List.dropWhile_eq_nil_iff]
    rintro c mem
    refine decide_eq_true ?_
    rintro rfl
    exact none (List.mem_reverse.mp mem)
  rw [beforeLastSpace, all]
  rfl

/-- With a space to cut at, the text is cut there. -/
lemma snippetHead_of_space {before begun : List Char}
    (cut : text.take most = before ++ ' ' :: begun) (none : ' ' ∉ begun) (ne : before ≠ []) :
    snippetHead text most = trimEnd before := by
  simp only [snippetHead]
  rw [cut, beforeLastSpace_append_cons none, if_neg]
  rwa [List.isEmpty_iff]

/-- With no space but perhaps one at the start, the text is cut after the last character. -/
lemma snippetHead_of_no_space (none : ' ' ∉ (text.take most).tail) :
    snippetHead text most = trimEnd (text.take most) := by
  have nothing : beforeLastSpace (text.take most) = [] := by
    cases cut : text.take most with
    | nil => rfl
    | cons c rest =>
      rw [cut] at none
      -- A space at the front is found, but nothing comes before it.
      by_cases space : c = ' '
      · rw [space, ← List.nil_append (' ' :: rest)]
        exact beforeLastSpace_append_cons none
      · apply beforeLastSpace_of_not_mem
        rw [List.mem_cons, not_or]
        exact ⟨Ne.symm space, none⟩
  simp only [snippetHead]
  rw [nothing]
  rfl

/-- A text that is too long is cut, and marked. -/
lemma snippet_of_long {text : String} (long : most < text.toList.length) :
    snippet text most = String.ofList (snippetHead text.toList most ++ ['…']) :=
  if_neg (by omega)

/-- What is kept of a text that may have so many characters, cut as cleanly as can be. -/
structure CleanCut (text : List Char) (most : Nat) (kept : List Char) : Prop where
  isPrefix : kept <+: text
  length_le : kept.length ≤ most
  /-- There are no blanks before the cut. -/
  noBlank : ∀ c ∈ kept.getLast?, isBlank c = false
  /-- With a space to cut at, not counting one at the start, the text goes on with a blank. -/
  atBlank : ' ' ∈ (text.take most).tail → ∃ c rest, text = kept ++ c :: rest ∧ isBlank c = true
  /-- All that is given up are blanks and what comes after the last space. -/
  atSpace : ' ' ∈ (text.take most).tail → ∃ blanks begun,
    text.take most = kept ++ blanks ++ ' ' :: begun ∧ (∀ c ∈ blanks, isBlank c = true) ∧ ' ' ∉ begun
  /-- With no space to cut at all that is given up are blanks. -/
  atEnd : ' ' ∉ (text.take most).tail → ∃ blanks,
    text.take most = kept ++ blanks ∧ ∀ c ∈ blanks, isBlank c = true

/-- A beginning of the characters allowed is one of the text in few enough characters. -/
lemma isPrefix_and_length_le {after : List Char} (cut : text.take most = kept ++ after) :
    kept <+: text ∧ kept.length ≤ most :=
  List.prefix_take_iff.mp ⟨after, cut.symm⟩

/-- The cut is clean. -/
lemma cleanCut_snippetHead (text : List Char) (most : Nat) :
    CleanCut text most (snippetHead text most) := by
  -- A space at the very front leaves nothing before it, so only later spaces count.
  by_cases space : ' ' ∈ (text.take most).tail
  · obtain ⟨before, begun, eq, none⟩ := exists_last_space space
    obtain ⟨first, cut⟩ : ∃ first, text.take most = (first :: before) ++ ' ' :: begun := by
      cases cut : text.take most with
      | nil =>
        rw [cut] at space
        cases space
      | cons first rest =>
        rw [cut, List.tail_cons] at eq
        exact ⟨first, by rw [eq, List.cons_append]⟩
    obtain ⟨blanks, trimmed, blank⟩ := exists_eq_trimEnd_append (first :: before)
    have parts : text.take most = trimEnd (first :: before) ++ (blanks ++ ' ' :: begun) := by
      rw [← List.append_assoc, ← trimmed, cut]
    obtain ⟨isPrefix, length_le⟩ := isPrefix_and_length_le parts
    rw [snippetHead_of_space cut none (List.cons_ne_nil _ _)]
    refine ⟨isPrefix, length_le, isBlank_getLast?_trimEnd _, fun _ => ?_, fun _ => ?_, ?_⟩
    · -- The first blank that was trimmed, or the space itself.
      rw [← List.take_append_drop most text, parts]
      cases blanks with
      | nil => exact ⟨' ', begun ++ text.drop most, by simp, isBlank_space⟩
      | cons c blanks =>
        exact ⟨c, blanks ++ ' ' :: begun ++ text.drop most, by simp, blank c List.mem_cons_self⟩
    · exact ⟨blanks, begun, by rw [parts, List.append_assoc], blank, none⟩
    · exact absurd space
  · obtain ⟨blanks, trimmed, blank⟩ := exists_eq_trimEnd_append (text.take most)
    obtain ⟨isPrefix, length_le⟩ := isPrefix_and_length_le trimmed
    rw [snippetHead_of_no_space space]
    exact ⟨isPrefix, length_le, isBlank_getLast?_trimEnd _, fun h => absurd h space,
      fun h => absurd h space, fun _ => ⟨blanks, trimmed, blank⟩⟩

/-- A snippet is the whole text if that fits, and else what is kept of it, cut cleanly, with an
ellipsis. -/
theorem snippet_cleanCut (text : String) (most : Nat) :
    (text.toList.length ≤ most → snippet text most = text) ∧
      (most < text.toList.length → ∃ kept,
        snippet text most = String.ofList (kept ++ ['…']) ∧ CleanCut text.toList most kept) := by
  constructor
  · intro short
    exact if_pos short
  · intro long
    exact ⟨_, snippet_of_long long, cleanCut_snippetHead text.toList most⟩

section spaced

open Markup (SinglySpaced)

/-- Words with one space between any two of them have a blank only between two words. -/
lemma neighbours_of_blank {words : List (List Char)}
    (each : ∀ word ∈ words, word ≠ [] ∧ ∀ c ∈ word, isBlank c = false)
    {before after : List Char} {c : Char} (eq : [' '].intercalate words = before ++ c :: after)
    (blank : isBlank c = true) :
    c = ' ' ∧ (∃ d ∈ before.getLast?, isBlank d = false) ∧
      ∃ d ∈ after.head?, isBlank d = false := by
  have notIn {word : List Char} (own : ∀ d ∈ word, isBlank d = false) : c ∉ word := by
    intro mem
    rw [own c mem] at blank
    cases blank
  induction words generalizing before with
  | nil => simp at eq
  | cons word rest ih =>
    obtain ⟨⟨ne, own⟩, others⟩ := List.forall_mem_cons.mp each
    cases rest with
    | nil =>
      rw [List.intercalate_singleton] at eq
      exact absurd (by simp [eq]) (notIn own)
    | cons next rest =>
      have last : ∃ d ∈ word.getLast?, isBlank d = false :=
        ⟨_, List.getLast?_eq_some_getLast ne, own _ (List.getLast_mem ne)⟩
      have first : ∃ d ∈ ([' '].intercalate (next :: rest)).head?, isBlank d = false := by
        obtain ⟨ne', own'⟩ := others next List.mem_cons_self
        obtain ⟨d, more, rfl⟩ := List.exists_cons_of_ne_nil ne'
        refine ⟨d, ?_, own' d List.mem_cons_self⟩
        cases rest <;> simp
      rw [List.intercalate_cons_cons, List.append_assoc, List.singleton_append] at eq
      -- The blank comes right after the first word, or among those that follow it.
      rcases List.append_eq_append_iff.mp eq with ⟨between, rfl, same⟩ | ⟨inside, rfl, same⟩
      · cases between with
        | nil =>
          cases same
          exact ⟨rfl, by rwa [List.append_nil], first⟩
        | cons d between =>
          rw [List.cons_append, List.cons.injEq] at same
          obtain ⟨space, ⟨e, last', letter⟩, first'⟩ := ih others same.2
          refine ⟨space, ⟨e, ?_, letter⟩, first'⟩
          rw [List.getLast?_append, List.getLast?_cons, last']
          rfl
      · cases inside with
        | nil =>
          cases same
          exact ⟨rfl, by rwa [List.append_nil] at last, first⟩
        | cons d inside =>
          cases same
          exact absurd (by simp) (notIn own)

/-- A blank in such a text is a space between two other characters. -/
lemma Markup.SinglySpaced.neighbours (spaced : SinglySpaced s) {before after : List Char} {c : Char}
    (eq : s = before ++ c :: after) (blank : isBlank c = true) :
    c = ' ' ∧ (∃ d ∈ before.getLast?, isBlank d = false) ∧
      ∃ d ∈ after.head?, isBlank d = false := by
  obtain ⟨words, rfl, each⟩ := spaced
  exact neighbours_of_blank each eq blank

/-- In such a text no character but a space is blank. -/
lemma Markup.SinglySpaced.isBlank_eq_false (spaced : SinglySpaced s) {c : Char} (mem : c ∈ s)
    (ne : c ≠ ' ') : isBlank c = false := by
  by_contra blank
  obtain ⟨before, after, eq⟩ := List.append_of_mem mem
  exact ne (spaced.neighbours eq (by simpa using blank)).1

/-- The beginning of a text up to the end of one of its words. -/
structure EndsWord (text start : List Char) : Prop where
  letter : ∃ c ∈ start.getLast?, isBlank c = false
  boundary : ∃ rest, text = start ++ rest ∧ ∀ c ∈ rest.head?, isBlank c = true

/-- A start that ends with a word is not trimmed. -/
lemma EndsWord.trimEnd_eq {start : List Char} (ends : EndsWord text start) :
    trimEnd start = start := by
  obtain ⟨c, last, letter⟩ := ends.letter
  apply trimEnd_eq_self
  intro d last'
  cases last.symm.trans last'
  exact letter

/-- The longest beginning of a text up to the end of a word, in so many characters. -/
structure Fullest (text : List Char) (most : Nat) (start : List Char) : Prop where
  ends : EndsWord text start
  length_le : start.length ≤ most
  longest : ∀ other, EndsWord text other → other.length ≤ most → other.length ≤ start.length

section cut

variable {before begun : List Char} (cut : text.take most = before ++ ' ' :: begun)
include cut

/-- The text goes on behind the last space with the word that is cut. -/
lemma eq_before_append : text = before ++ ' ' :: (begun ++ text.drop most) := by
  conv_lhs => rw [← List.take_append_drop most text, cut]
  rw [List.append_assoc, List.cons_append]

variable (spaced : SinglySpaced text) (none : ' ' ∉ begun)
include spaced

/-- The text up to a space ends a word. -/
lemma endsWord_before : EndsWord text before := by
  have whole := eq_before_append cut
  refine ⟨(spaced.neighbours whole isBlank_space).2.1, _, whole, ?_⟩
  intro c first
  cases first
  exact isBlank_space

include none

/-- After the last space of the characters allowed a word can only end with the last of them. -/
lemma length_le_or_eq_of_endsWord {start : List Char} (ends : EndsWord text start)
    (le : start.length ≤ most) : start.length ≤ before.length ∨ start = text.take most := by
  obtain ⟨-, rest, whole, boundary⟩ := ends
  have within : start <+: text.take most := List.prefix_take_iff.mpr ⟨⟨rest, whole.symm⟩, le⟩
  obtain ⟨more, eq⟩ := within
  rw [cut] at eq ⊢
  rcases List.append_eq_append_iff.mp eq with ⟨between, rfl, -⟩ | ⟨between, rfl, same⟩
  · exact .inl (by simp)
  · cases between with
    | nil => exact .inl (by simp)
    | cons c between =>
      rw [List.cons_append, List.cons.injEq] at same
      obtain ⟨rfl, rfl⟩ := same
      cases more with
      | nil => exact .inr (by rw [List.append_nil])
      | cons d more =>
        -- The text would go on with a blank, which is no space.
        have goesOn : text = (before ++ ' ' :: between) ++ d :: (more ++ text.drop most) := by
          conv_lhs => rw [eq_before_append cut]
          simp
        have rest_eq : rest = d :: (more ++ text.drop most) :=
          List.append_cancel_left (whole.symm.trans goesOn)
        have blank : isBlank d = true := boundary d (by rw [rest_eq]; rfl)
        have space : d = ' ' := (spaced.neighbours goesOn blank).1
        exact absurd (by simp [space]) none

end cut

/-- What a snippet keeps of words with one space between any two of them. -/
structure KeepsWords (text : List Char) (most : Nat) (kept : List Char) : Prop where
  /-- It keeps all the words that fit, unless a word other than the first ends with the last
  character allowed. -/
  fullest_iff : Fullest text most kept ↔ ¬ (EndsWord text (text.take most) ∧ ' ' ∈ text.take most)
  /-- Then all the words that fit are those up to this one, and it keeps those before it, which are
  all that fit into fewer characters. -/
  wordShort : EndsWord text (text.take most) → ' ' ∈ text.take most →
    Fullest text most (text.take most) ∧ Fullest text (most - 1) kept ∧
      ∃ word, text.take most = kept ++ ' ' :: word ∧ word ≠ [] ∧ ∀ c ∈ word, isBlank c = false

/-- If there is no space in the characters allowed and the first word fits into them, they are the
first word. -/
lemma endsWord_take (spaced : SinglySpaced text) (long : most < text.length)
    (fits : (text.takeWhile (!isBlank ·)).length ≤ most) (none : ' ' ∉ text.take most) :
    EndsWord text (text.take most) := by
  have taken : (text.take most).length = most := List.length_take_of_le (Nat.le_of_lt long)
  have ne : text.drop most ≠ [] := fun nil => absurd (List.drop_eq_nil_iff.mp nil) (by omega)
  obtain ⟨d, rest, dropped⟩ := List.exists_cons_of_ne_nil ne
  have parts : text = text.take most ++ d :: rest := by rw [← dropped, List.take_append_drop]
  generalize text.take most = start at parts none taken ⊢
  subst parts
  have letters : ∀ c ∈ start, (!isBlank c) = true := by
    intro c mem
    rw [spaced.isBlank_eq_false (List.mem_append_left _ mem) (ne_of_mem_of_not_mem mem none)]
    rfl
  -- A letter here would belong to the first word, which would not fit.
  have blank : isBlank d = true := by
    by_contra letter
    rw [List.takeWhile_append_of_pos letters, List.takeWhile_cons_of_pos (by simpa using letter),
      List.length_append, taken, List.length_cons] at fits
    omega
  refine ⟨(spaced.neighbours rfl blank).2.1, _, rfl, ?_⟩
  intro c first
  cases first
  exact blank

/-- With a space before the cut whole words are kept. -/
lemma keepsWords_of_space (spaced : SinglySpaced text) (long : most < text.length)
    (space : ' ' ∈ text.take most) : KeepsWords text most (snippetHead text most) := by
  obtain ⟨before, begun, cut, none⟩ := exists_last_space space
  have ends := endsWord_before cut spaced
  have ne : before ≠ [] := by
    rintro rfl
    obtain ⟨c, last, -⟩ := ends.letter
    cases last
  have kept : snippetHead text most = before := by
    rw [snippetHead_of_space cut none ne, ends.trimEnd_eq]
  have taken : (text.take most).length = most := List.length_take_of_le (Nat.le_of_lt long)
  have lengths : before.length + (begun.length + 1) = most := by
    rw [← taken, cut, List.length_append, List.length_cons]
  rw [kept]
  constructor
  case fullest_iff =>
    constructor
    · rintro fullest ⟨later, -⟩
      have := fullest.longest _ later (List.length_take_le _ _)
      omega
    · intro cutsWord
      refine ⟨ends, by omega, fun other ends' le => ?_⟩
      cases length_le_or_eq_of_endsWord cut spaced none ends' le with
      | inl shorter => exact shorter
      | inr eq => exact absurd ⟨eq ▸ ends', space⟩ cutsWord
  case wordShort =>
    -- What is kept is one word short: the last word would have fitted exactly.
    intro later _
    refine ⟨⟨later, by omega, fun other _ le => by omega⟩, ⟨ends, by omega, ?_⟩, begun, cut, ?_, ?_⟩
    · intro other ends' le
      cases length_le_or_eq_of_endsWord cut spaced none ends' (by omega) with
      | inl shorter => exact shorter
      | inr eq =>
        rw [eq, taken] at le
        omega
    · rintro rfl
      obtain ⟨d, last', letter'⟩ := later.letter
      rw [cut, List.getLast?_concat] at last'
      cases last'
      rw [isBlank_space] at letter'
      cases letter'
    · intro d mem
      apply spaced.isBlank_eq_false _ (ne_of_mem_of_not_mem mem none)
      rw [eq_before_append cut]
      simp [mem]

/-- A snippet of words with one space between any two of them keeps all the words that fit, but for
one that ends with the last character allowed and is not the first. -/
theorem snippet_keepsWords {text : String} {most : Nat} (spaced : SinglySpaced text.toList)
    (long : most < text.toList.length)
    (fits : (text.toList.takeWhile (!isBlank ·)).length ≤ most) :
    ∃ kept, snippet text most = String.ofList (kept ++ ['…']) ∧
      KeepsWords text.toList most kept := by
  refine ⟨_, snippet_of_long long, ?_⟩
  by_cases space : ' ' ∈ text.toList.take most
  · exact keepsWords_of_space spaced long space
  · have ends := endsWord_take spaced long fits space
    have kept : snippetHead text.toList most = text.toList.take most := by
      rw [snippetHead_of_no_space (fun mem => space (List.mem_of_mem_tail mem)), ends.trimEnd_eq]
    have taken : (text.toList.take most).length = most :=
      List.length_take_of_le (Nat.le_of_lt long)
    rw [kept]
    constructor
    case fullest_iff =>
      refine iff_of_true ⟨ends, by omega, fun other _ le => by omega⟩ ?_
      exact fun later => space later.2
    case wordShort => exact fun _ mem => absurd mem space

/-- The text of a page has single spaces between its words. -/
lemma singlySpaced_plainText (html : String) : SinglySpaced (plainText html).toList := by
  rw [plainText, String.toList_ofList]
  exact Markup.singlySpaced_collapse _

/-- So for the text of a page, of which two words are kept where a third would fit. -/
theorem snippet_keepsWords_page :
    let text := plainText "<p>the <b>quick</b>\n brown</p><p>fox</p>"
    SinglySpaced text.toList ∧ 15 < text.toList.length ∧
      (text.toList.takeWhile (!isBlank ·)).length ≤ 15 ∧
      ∃ kept, snippet text 15 = String.ofList (kept ++ ['…']) ∧ KeepsWords text.toList 15 kept := by
  intro text
  have spaced : SinglySpaced text.toList := singlySpaced_plainText _
  have long : 15 < text.toList.length := by decide +kernel
  have fits : (text.toList.takeWhile (!isBlank ·)).length ≤ 15 := by decide +kernel
  exact ⟨spaced, long, fits, snippet_keepsWords spaced long fits⟩

/-- Nine characters have room for two words of a text, but its snippet has one. -/
theorem not_fullest_of_word_at_end :
    let text := "the quick brown fox"
    SinglySpaced text.toList ∧ 9 < text.toList.length ∧
      (text.toList.takeWhile (!isBlank ·)).length ≤ 9 ∧ snippet text 9 = "the…" ∧
      ¬ ∃ kept, snippet text 9 = String.ofList (kept ++ ['…']) ∧ Fullest text.toList 9 kept := by
  intro text
  have spaced : SinglySpaced text.toList := by
    rw [← show collapse text.toList = text.toList from by decide]
    exact Markup.singlySpaced_collapse _
  have snipped : snippet text 9 = "the…" := by decide
  refine ⟨spaced, by decide, by decide, snipped, ?_⟩
  rintro ⟨kept, eq, fullest⟩
  have one : kept = "the".toList := by
    have same : "the".toList ++ ['…'] = kept ++ ['…'] := by
      rw [← String.ofList_inj, ← eq, snipped]
      rfl
    exact (List.append_cancel_right same).symm
  have two : EndsWord text.toList "the quick".toList := by
    refine ⟨⟨'k', by decide, by decide⟩, " brown fox".toList, by decide, ?_⟩
    intro c first
    cases first
    exact isBlank_space
  have longer := fullest.longest _ two (by decide)
  rw [one] at longer
  exact absurd longer (by decide)

end spaced

end PageSearch
