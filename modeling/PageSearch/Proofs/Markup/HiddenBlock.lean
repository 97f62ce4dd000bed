import Mathlib.Data.List.Forall2
import Mathlib.Data.List.TakeWhile
import PageSearch.Markup.PlainText
import PageSearch.Proofs.Markup.Pattern
import PageSearch.Proofs.Text.Blank

/-!
# Finding hidden elements

What a hidden block is, said without the functions that find it: an opening tag, a body and a
closing tag. The closing tag is the first one of any hidden element. Wherever one starts in a page
outside of another, it becomes a space.
-/

namespace PageSearch
namespace Markup

open Text

/-- A name in some letter case. -/
abbrev Spelled (name start : List Char) : Prop :=
  List.Forall₂ (fun letter c => foldsTo letter c = true) name start

/-- An opening tag of an element. The name does not go on into the attributes. -/
inductive OpeningTag (name : List Char) : List Char → Prop where
  | intro {start attributes} :
    Spelled name start →
    (∀ c ∈ attributes.head?, isWordChar c = false) →
    '>' ∉ attributes →
    OpeningTag name ('<' :: (start ++ attributes ++ ['>']))

/-- A closing tag of an element. It may have blanks before its end. -/
inductive ClosingTag (name : List Char) : List Char → Prop where
  | intro {start blanks} :
    Spelled name start →
    (∀ c ∈ blanks, isBlank c = true) →
    ClosingTag name ('<' :: '/' :: (start ++ blanks ++ ['>']))

/-- An element is closed somewhere in a text. -/
def Closes (name text : List Char) : Prop :=
  ∃ tag, ClosingTag name tag ∧ tag <:+: text

/-- No hidden element is closed in a text. -/
def ClosesNone (text : List Char) : Prop :=
  ∀ name ∈ hiddenNames, ¬ Closes name text

/-- A hidden element as it stands in a page. Its body goes to the nearest closing tag, of whichever
hidden element that is. -/
inductive HiddenElement : List Char → Prop where
  | intro {name other opening body closing} :
    name ∈ hiddenNames →
    OpeningTag name opening →
    ClosesNone body →
    other ∈ hiddenNames →
    ClosingTag other closing →
    HiddenElement (opening ++ body ++ closing)

section names

variable {name start s rest : List Char} {c : Char}

/-- What is taken as a name in any letter case is letter by letter the name. -/
lemma dropName_eq_some_iff :
    dropName name s = some rest ↔ ∃ start, s = start ++ rest ∧ Spelled name start := by
  constructor
  · intro h
    induction name generalizing s with
    | nil =>
      cases h
      exact ⟨[], rfl, .nil⟩
    | cons letter name ih =>
      cases s with
      | nil => cases h
      | cons c s =>
        simp only [dropName] at h
        split at h
        · rename_i folds
          obtain ⟨start, rfl, same⟩ := ih h
          exact ⟨c :: start, rfl, .cons folds same⟩
        · cases h
  · intro h
    obtain ⟨start, rfl, same⟩ := h
    induction same with
    | nil => rfl
    | cons folds _ ih => simpa [dropName, folds] using ih

/-- In no letter case does a name have a character that none of its letters stands for. -/
lemma not_mem_of_foldsTo (others : ∀ letter ∈ name, foldsTo letter c = false)
    (same : Spelled name start) : c ∉ start := by
  induction same with
  | nil => simp
  | @cons letter d name start folds _ ih =>
    simp only [List.forall_mem_cons] at others
    rw [List.mem_cons, not_or]
    refine ⟨?_, ih others.2⟩
    intro eq
    rw [eq, folds] at others
    cases others.1

/-- A name is spelled as it is written. -/
lemma spelled_self (name : List Char) : Spelled name name := by
  rw [Spelled, List.forall₂_same]
  intro letter _
  simp [foldsTo]

/-- Marks of tags and comments, and a space. -/
def marks : List Char :=
  ['<', '>', '-', ' ']

/-- A mark is in no name of a hidden element. -/
lemma not_mem_of_spelled (hidden : name ∈ hiddenNames) (same : Spelled name start)
    (mark : c ∈ marks) : c ∉ start := by
  have others : ∀ name ∈ hiddenNames, marks.all fun mark => name.all (!foldsTo · mark) := by
    decide
  apply not_mem_of_foldsTo _ same
  simpa using List.all_eq_true.mp (others name hidden) c mark

/-- Marks of tags are no characters of words. -/
lemma isWordChar_mark (mark : c ∈ marks) : isWordChar c = false := by
  have none : marks.all (!isWordChar ·) = true := by decide +kernel
  simpa using List.all_eq_true.mp none c mark

/-- But for the s, a letter stands for itself in either case. -/
lemma toLower_of_foldsTo {letter : Char} (small : letter.toLower = letter) (other : letter ≠ 's')
    (folds : foldsTo letter c = true) : c.toLower = letter := by
  simp only [foldsTo, Bool.or_eq_true, Bool.and_eq_true, beq_iff_eq] at folds
  rcases folds with (rfl | lower) | ⟨eq, -⟩
  · exact small
  · exact lower
  · exact absurd eq other

/-- No text starts with both names: they differ in the second letter. -/
lemma dropName_style_of_script (script : dropName "script".toList s = some rest) :
    dropName "style".toList s = none := by
  obtain ⟨start, rfl, same⟩ := dropName_eq_some_iff.mp script
  rw [Option.eq_none_iff_forall_not_mem]
  intro rest' style
  obtain ⟨start', eq, same'⟩ := dropName_eq_some_iff.mp style
  simp only [String.reduceToList, Spelled, List.forall₂_cons_left_iff] at same same'
  obtain ⟨_, _, -, ⟨c, _, folds, -, rfl⟩, rfl⟩ := same
  obtain ⟨_, _, -, ⟨d, _, folds', -, rfl⟩, rfl⟩ := same'
  -- The second letter cannot be a c and a t at once.
  have second : c = d := by
    simp only [List.cons_append, List.cons.injEq] at eq
    exact eq.2.1
  have lower := toLower_of_foldsTo (by decide) (by decide) folds
  rw [second, toLower_of_foldsTo (by decide) (by decide) folds'] at lower
  cases lower

/-- A name is dropped if one of the two is spelled there, in any case. -/
lemma dropHiddenName_eq_some_iff :
    dropHiddenName s = some rest ↔
      ∃ name ∈ hiddenNames, ∃ start, s = start ++ rest ∧ Spelled name start := by
  have either : dropHiddenName s = (dropName "script".toList s).or (dropName "style".toList s) := by
    rw [dropHiddenName, hiddenNames, List.findSome?_cons, List.findSome?_cons, List.findSome?_nil]
    cases dropName "script".toList s <;> cases dropName "style".toList s <;> rfl
  -- The names are tried in order, so the second counts only where the first fails.
  have apart : dropName "style".toList s = some rest → dropName "script".toList s = none := by
    intro style
    rw [Option.eq_none_iff_forall_not_mem]
    intro other script
    rw [dropName_style_of_script script] at style
    cases style
  simp only [either, Option.or_eq_some_iff, hiddenNames, List.mem_cons, List.not_mem_nil, or_false,
    exists_eq_or_imp, exists_eq_left, ← dropName_eq_some_iff]
  exact or_congr_right (and_iff_right_of_imp apart)

end names

section tags

variable {name start s t rest replacement after text body tag : List Char} {c : Char}

/-- No closing tag has a `<` but at its start, or a dash. -/
lemma ClosingTag.exists_cons (closing : ClosingTag name tag) (hidden : name ∈ hiddenNames) :
    ∃ more, tag = '<' :: more ∧ '<' ∉ more ∧ '-' ∉ more := by
  cases closing with
  | @intro start blanks same blank =>
    have noBlank (d : Char) (other : isBlank d = false) : d ∉ blanks := by
      intro mem
      rw [blank d mem] at other
      cases other
    have noOpen : '<' ∉ start := not_mem_of_spelled hidden same (by decide)
    have noDash : '-' ∉ start := not_mem_of_spelled hidden same (by decide)
    refine ⟨_, rfl, ?_, ?_⟩
    · simp [noOpen, noBlank '<' (by decide)]
    · simp [noDash, noBlank '-' (by decide)]

/-- A closing tag that starts before another tag ends before it. -/
lemma ClosingTag.isPrefix (closing : ClosingTag name tag) (hidden : name ∈ hiddenNames)
    (ne : s ≠ []) (h : tag <+: s ++ '<' :: t) : tag <+: s := by
  obtain ⟨more, rfl, noOpen, -⟩ := closing.exists_cons hidden
  obtain ⟨c, s, rfl⟩ := List.exists_cons_of_ne_nil ne
  rw [List.cons_append, List.cons_prefix_cons] at h
  exact List.cons_prefix_cons.mpr ⟨h.1, isPrefix_of_isPrefix_append_cons noOpen h.2⟩

/-- An opening tag ends at its first `>`. -/
lemma OpeningTag.exists_concat (opening : OpeningTag name tag) (hidden : name ∈ hiddenNames) :
    ∃ inside, tag = inside ++ ['>'] ∧ '>' ∉ inside := by
  cases opening with
  | @intro start attributes same _ noEnd =>
    have noEnd' : '>' ∉ start := not_mem_of_spelled hidden same (by decide)
    exact ⟨'<' :: (start ++ attributes), by simp, by simp [noEnd', noEnd]⟩

/-- A word ends where no character of a word follows. -/
lemma atWordEnd_iff : atWordEnd s = true ↔ ∀ c ∈ s.head?, isWordChar c = false := by
  cases s with
  | nil => simp [atWordEnd]
  | cons c rest => simp [atWordEnd]

/-- An opening tag is dropped if one stands there. -/
lemma dropOpening_eq_some_iff :
    dropOpening s = some rest ↔
      ∃ name ∈ hiddenNames, ∃ opening, OpeningTag name opening ∧ s = opening ++ rest := by
  constructor
  · intro h
    simp only [dropOpening, Option.bind_eq_bind, Option.bind_eq_some_iff, dropLead_eq_some_iff,
      dropHiddenName_eq_some_iff] at h
    obtain ⟨_, rfl, _, ⟨name, hidden, start, rfl, same⟩, h⟩ := h
    split at h
    · rename_i wordEnd
      obtain ⟨attributes, rfl, noEnd⟩ := dropThrough_eq_some_iff.mp h
      refine ⟨name, hidden, _, .intro same ?_ noEnd, by simp⟩
      rw [atWordEnd_iff] at wordEnd
      cases attributes with
      | nil => simp
      | cons c attributes => exact wordEnd
    · cases h
  · intro h
    obtain ⟨name, hidden, _, @⟨start, attributes, same, wordEnd, noEnd⟩, rfl⟩ := h
    have named : dropHiddenName (start ++ (attributes ++ '>' :: rest)) =
        some (attributes ++ '>' :: rest) :=
      dropHiddenName_eq_some_iff.mpr ⟨name, hidden, start, rfl, same⟩
    have ended : atWordEnd (attributes ++ '>' :: rest) = true := by
      rw [atWordEnd_iff]
      cases attributes with
      | nil => simp [isWordChar_mark (by decide : '>' ∈ marks)]
      | cons c attributes => exact wordEnd
    have taken : dropThrough '>' (attributes ++ '>' :: rest) = some rest :=
      dropThrough_eq_some_iff.mpr ⟨attributes, rfl, noEnd⟩
    simp [dropOpening, dropLead, named, ended, taken]

/-- A bracket follows the blanks if only blanks stand before it. -/
lemma trimStart_eq_append_iff :
    trimStart s = ['>'] ++ rest ↔
      ∃ blanks, s = blanks ++ '>' :: rest ∧ ∀ c ∈ blanks, isBlank c = true := by
  rw [List.singleton_append]
  constructor
  · intro h
    refine ⟨s.takeWhile isBlank, ?_, fun c mem => List.mem_takeWhile_imp mem⟩
    rw [← h, trimStart, List.takeWhile_append_dropWhile]
  · intro h
    obtain ⟨blanks, rfl, blank⟩ := h
    rw [trimStart, List.dropWhile_append_of_pos blank, List.dropWhile_cons_of_neg (by decide)]

/-- A closing tag is dropped if one stands there, of either element. -/
lemma dropClosing_eq_some_iff :
    dropClosing s = some rest ↔
      ∃ name ∈ hiddenNames, ∃ closing, ClosingTag name closing ∧ s = closing ++ rest := by
  simp only [dropClosing, Option.bind_eq_bind, Option.bind_eq_some_iff, dropLead_eq_some_iff,
    dropHiddenName_eq_some_iff, trimStart_eq_append_iff]
  constructor
  · intro h
    obtain ⟨_, rfl, _, ⟨name, hidden, start, rfl, same⟩, blanks, rfl, blank⟩ := h
    exact ⟨name, hidden, _, .intro same blank, by simp⟩
  · intro h
    obtain ⟨name, hidden, _, @⟨start, blanks, same, blank⟩, rfl⟩ := h
    exact ⟨start ++ (blanks ++ '>' :: rest), by simp, _, ⟨name, hidden, start, rfl, same⟩, blanks,
      rfl, blank⟩

/-- A part of a text closes nothing that the text does not close. -/
lemma ClosesNone.of_isInfix (none : ClosesNone text) (h : s <:+: text) : ClosesNone s := by
  intro name hidden closes
  obtain ⟨tag, closing, within⟩ := closes
  exact none name hidden ⟨tag, closing, within.trans h⟩

/-- Where no closing tag can be taken in a text, whatever comes after it, there is none. -/
lemma closesNone_of_fails
    (fails : ∀ tail, tail <:+ body → tail ≠ [] → dropClosing (tail ++ after) = none) :
    ClosesNone body := by
  rintro name hidden ⟨tag, closing, before, more, rfl⟩
  have ne : tag ++ more ≠ [] := by
    obtain ⟨_, rfl, -⟩ := closing.exists_cons hidden
    simp
  have none := fails (tag ++ more) ⟨before, by simp⟩ ne
  rw [List.append_assoc, dropClosing_eq_some_iff.mpr ⟨name, hidden, _, closing, rfl⟩] at none
  cases none

/-- What is after the first closing tag of a hidden element. -/
lemma dropThroughFirst_dropClosing_eq_some_iff :
    dropThroughFirst dropClosing s = some rest ↔
      ∃ body, ClosesNone body ∧ ∃ name ∈ hiddenNames, ∃ closing, ClosingTag name closing ∧
        s = body ++ closing ++ rest := by
  rw [dropThroughFirst_eq_some_iff]
  constructor
  · intro h
    obtain ⟨body, after, rfl, ends, first⟩ := h
    obtain ⟨name, hidden, closing, tag, rfl⟩ := dropClosing_eq_some_iff.mp ends
    exact ⟨body, closesNone_of_fails first, name, hidden, closing, tag, by simp⟩
  · intro h
    obtain ⟨body, none, name, hidden, closing, tag, rfl⟩ := h
    refine ⟨body, closing ++ rest, by simp,
      dropClosing_eq_some_iff.mpr ⟨name, hidden, closing, tag, rfl⟩, ?_⟩
    intro tail suffix ne
    rw [Option.eq_none_iff_forall_not_mem]
    intro after found
    obtain ⟨other, hidden', tag', closing', eq⟩ := dropClosing_eq_some_iff.mp found
    obtain ⟨more, rfl, -⟩ := tag.exists_cons hidden
    -- An earlier closing tag ends before the one that is taken begins, so it lies in the body.
    have within : tag' <+: tail := closing'.isPrefix hidden' ne ⟨after, eq.symm⟩
    exact none other hidden' ⟨tag', closing', within.isInfix.trans suffix.isInfix⟩

/-- A text has no closing tag of a hidden element, or it has a first one. -/
lemma closesNone_or_exists (s : List Char) :
    ClosesNone s ∨ ∃ inner, ∃ name ∈ hiddenNames, ∃ tag rest, s = inner ++ tag ++ rest ∧
      ClosesNone inner ∧ ClosingTag name tag := by
  cases taken : dropThroughFirst dropClosing s with
  | some rest =>
    obtain ⟨inner, none, name, hidden, tag, closing, eq⟩ :=
      dropThroughFirst_dropClosing_eq_some_iff.mp taken
    exact .inr ⟨inner, name, hidden, tag, rest, eq, none, closing⟩
  | none =>
    have fails : ∀ tail, tail <:+ s → tail ≠ [] → dropClosing (tail ++ []) = none := by
      intro tail suffix _
      rw [List.append_nil]
      exact dropThroughFirst_eq_none_iff.mp taken tail suffix
    exact .inl (closesNone_of_fails fails)

/-- The pattern of hidden blocks matches where a hidden element starts, and takes it. -/
lemma hiddenBlock_eq_some_iff :
    hiddenBlock s = some (replacement, after) ↔
      replacement = [' '] ∧ ∃ element, HiddenElement element ∧ s = element ++ after := by
  simp only [hiddenBlock, Option.bind_eq_bind, Option.bind_eq_some_iff, dropOpening_eq_some_iff,
    dropThroughFirst_dropClosing_eq_some_iff, Option.pure_def, Option.some.injEq, Prod.mk.injEq]
  constructor
  · intro h
    obtain ⟨_, ⟨name, hidden, opening, opens, rfl⟩, _,
      ⟨body, none, other, hidden', closing, closes, rfl⟩, rfl, rfl⟩ := h
    exact ⟨rfl, _, .intro hidden opens none hidden' closes, by simp⟩
  · intro h
    obtain ⟨rfl, _, @⟨name, other, opening, body, closing, hidden, opens, none, hidden', closes⟩,
      rfl⟩ := h
    exact ⟨body ++ closing ++ after, ⟨name, hidden, opening, opens, by simp⟩, after,
      ⟨body, none, other, hidden', closing, closes, rfl⟩, rfl, rfl⟩

/-- Every hidden element starts with a bracket. -/
lemma hiddenBlock_startsWith : hiddenBlock.StartsWith '<' := by
  intro d rest other
  simp [hiddenBlock, dropOpening, dropLead, other]

/-- A space is left in its place. -/
lemma hiddenBlock_leavesSpace : hiddenBlock.LeavesSpace := by
  intro s replacement after found
  obtain ⟨rfl, element, -, rfl⟩ := hiddenBlock_eq_some_iff.mp found
  exact ⟨rfl, List.suffix_append element after⟩

end tags

section elements

variable {before element s t : List Char}

/-- A hidden element goes from a `<` to a `>`. -/
lemma HiddenElement.exists_inside (hidden : HiddenElement element) :
    ∃ inside, element = '<' :: (inside ++ ['>']) := by
  cases hidden with
  | @intro _ _ _ body _ _ opens _ _ closes =>
    cases opens with
    | @intro start attributes =>
      cases closes with
      | @intro start' blanks =>
        exact ⟨start ++ attributes ++ ['>'] ++ body ++ '<' :: '/' :: (start' ++ blanks), by simp⟩

/-- A hidden element becomes a space. -/
lemma HiddenElement.replaceAll_append (hidden : HiddenElement element) (after : List Char) :
    hiddenBlock.replaceAll (element ++ after) = ' ' :: hiddenBlock.replaceAll after := by
  have found : hiddenBlock (element ++ after) = some ([' '], after) :=
    hiddenBlock_eq_some_iff.mpr ⟨rfl, element, hidden, rfl⟩
  obtain ⟨inside, rfl⟩ := hidden.exists_inside
  rw [List.cons_append] at found ⊢
  rw [Pattern.replaceAll_of_some found (by simp; omega), List.singleton_append]

/-- Texts with the same characters outside of hidden elements are the same page. -/
lemma plainText_congr (same : hiddenBlock.replaceAll s = hiddenBlock.replaceAll t) :
    plainText (String.ofList s) = plainText (String.ofList t) := by
  simp only [plainText, String.toList_ofList, plainChars, stripTags, same]

/-- On a page a hidden element counts as a space. -/
lemma HiddenElement.plainText_append (hidden : HiddenElement element) (noTag : '<' ∉ before)
    (after : List Char) :
    plainText (String.ofList (before ++ element ++ after)) =
      plainText (String.ofList (before ++ ' ' :: after)) := by
  apply plainText_congr
  rw [List.append_assoc, hiddenBlock_startsWith.replaceAll_append noTag, hidden.replaceAll_append,
    hiddenBlock_startsWith.replaceAll_append noTag,
    hiddenBlock_startsWith.replaceAll_cons (by decide)]

end elements

end Markup
end PageSearch
