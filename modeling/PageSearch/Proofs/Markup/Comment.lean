import PageSearch.Proofs.Markup.HiddenBlock
import PageSearch.Proofs.Markup.Tag

/-!
# Comments

Hidden elements go before comments do, so an element may be opened in a comment and closed after it.
Then what is between the comment and the closing tag is lost, and the start of the comment is left
over. In every other case a comment becomes a space.
-/

namespace PageSearch
namespace Markup

open Text

/-- A comment with this text in it. -/
def commentOf (body : List Char) : List Char :=
  "<!--".toList ++ body ++ "-->".toList

/-- A text starts with an opening tag of a hidden element, which may go on after the text. -/
def OpensHidden (s : List Char) : Prop :=
  ∃ name ∈ hiddenNames, ∃ start rest, s = '<' :: (start ++ rest) ∧ Spelled name start ∧
    ∀ c ∈ rest.head?, isWordChar c = false

/-- No hidden element is closed after the first tag of a text. -/
def Unclosed (s : List Char) : Prop :=
  ∀ inside rest, s = inside ++ '>' :: rest → '>' ∉ inside → ClosesNone rest

/-- A hidden element is opened at the start of a text and not closed in it. -/
structure LeftOpen (s : List Char) : Prop where
  opens : OpensHidden s
  unclosed : Unclosed s

/-- Every hidden element that is opened in a text is closed in it. -/
inductive AllClosed : List Char → Prop where
  | nil :
    AllClosed []
  | char {c rest} :
    ¬ OpensHidden (c :: rest) →
    AllClosed rest →
    AllClosed (c :: rest)
  | element {element rest} :
    HiddenElement element →
    AllClosed rest →
    AllClosed (element ++ rest)

section opened

variable {c : Char} {s t inside rest element : List Char}

/-- An opening tag begins with its bracket. -/
lemma OpensHidden.exists_cons (opens : OpensHidden s) : ∃ more, s = '<' :: more := by
  obtain ⟨_, _, start, rest, rfl, -⟩ := opens
  exact ⟨_, rfl⟩

/-- Whether a hidden element is opened does not depend on what comes after a mark. -/
lemma opensHidden_append_iff (ne : s ≠ []) (mark : c ∈ marks) :
    OpensHidden (s ++ c :: t) ↔ OpensHidden s := by
  have head (rest : List Char) : (∀ d ∈ (rest ++ c :: t).head?, isWordChar d = false) ↔
      ∀ d ∈ rest.head?, isWordChar d = false := by
    cases rest with
    | nil => simpa using isWordChar_mark mark
    | cons d rest => simp
  obtain ⟨d, s, rfl⟩ := List.exists_cons_of_ne_nil ne
  constructor
  · rintro ⟨name, hidden, start, rest, eq, same, wordEnd⟩
    rw [List.cons_append, List.cons.injEq] at eq
    obtain ⟨rfl, eq⟩ := eq
    -- The name is spelled before the mark, since no mark is a letter of it.
    have within : start <+: s :=
      isPrefix_of_isPrefix_append_cons (not_mem_of_spelled hidden same mark) ⟨rest, eq.symm⟩
    obtain ⟨more, rfl⟩ := within
    rw [List.append_assoc, List.append_cancel_left_eq] at eq
    exact ⟨name, hidden, start, more, rfl, same, (head more).mp (eq ▸ wordEnd)⟩
  · rintro ⟨name, hidden, start, rest, eq, same, wordEnd⟩
    refine ⟨name, hidden, start, rest ++ c :: t, ?_, same, (head rest).mpr wordEnd⟩
    rw [eq]
    simp

/-- What a hidden element is opened with goes on to the first `>` as its opening tag. -/
lemma OpensHidden.exists_openingTag (opens : OpensHidden (inside ++ '>' :: rest))
    (noEnd : '>' ∉ inside) : ∃ name ∈ hiddenNames, OpeningTag name (inside ++ ['>']) := by
  have ne : inside ≠ [] := by
    rintro rfl
    obtain ⟨_, eq⟩ := opens.exists_cons
    cases eq
  obtain ⟨name, hidden, start, attributes, rfl, same, wordEnd⟩ :=
    (opensHidden_append_iff ne (by decide)).mp opens
  refine ⟨name, hidden, .intro same wordEnd ?_⟩
  intro mem
  exact noEnd (by simp [mem])

/-- A hidden element begins with an opening tag. -/
lemma HiddenElement.opensHidden (hidden : HiddenElement element) (after : List Char) :
    OpensHidden (element ++ after) := by
  cases hidden with
  | @intro name other opening body closing hidden opens =>
    cases opens with
    | @intro start attributes same wordEnd noEnd =>
      have opened : OpensHidden ('<' :: (start ++ attributes)) :=
        ⟨name, hidden, start, attributes, rfl, same, wordEnd⟩
      -- The end of the opening tag is a mark, so what follows it does not count.
      have longer := (opensHidden_append_iff (t := body ++ closing ++ after) (by simp)
        (by decide : '>' ∈ marks)).mpr opened
      simpa using longer

/-- Nothing is taken where no hidden element stands. -/
lemma hiddenBlock_eq_none (other : ∀ element after, HiddenElement element → s ≠ element ++ after) :
    hiddenBlock s = none := by
  rw [Option.eq_none_iff_forall_not_mem]
  intro found mem
  obtain ⟨-, element, hidden, eq⟩ := hiddenBlock_eq_some_iff.mp mem
  exact other element _ hidden eq

/-- In particular nothing where none is opened. -/
lemma hiddenBlock_of_not_opensHidden (closed : ¬ OpensHidden s) : hiddenBlock s = none := by
  apply hiddenBlock_eq_none
  rintro element after hidden rfl
  exact closed (hidden.opensHidden after)

/-- A text with nothing left open in it does not change how hidden elements are found after it. -/
lemma AllClosed.replaceAll_append (closed : AllClosed s) (mark : c ∈ marks) (t : List Char) :
    hiddenBlock.replaceAll (s ++ c :: t) =
      hiddenBlock.replaceAll s ++ hiddenBlock.replaceAll (c :: t) := by
  -- The mark keeps what is not opened in the text from being opened with what comes after it.
  induction closed with
  | nil => simp
  | @char d rest opensNone _ ih =>
    have opensNone' : ¬ OpensHidden (d :: (rest ++ c :: t)) := by
      rwa [← List.cons_append, opensHidden_append_iff (by simp) mark]
    rw [Pattern.replaceAll_of_none (hiddenBlock_of_not_opensHidden opensNone), List.cons_append,
      Pattern.replaceAll_of_none (hiddenBlock_of_not_opensHidden opensNone'), ih, List.cons_append]
  | @element element rest hidden _ ih =>
    rw [List.append_assoc, hidden.replaceAll_append, hidden.replaceAll_append, ih,
      List.cons_append]

end opened

section unclosed

variable {c : Char} {s t name tag : List Char}

/-- A character that begins no tag closes nothing. -/
lemma closesNone_cons (other : c ≠ '<') (none : ClosesNone s) : ClosesNone (c :: s) := by
  rintro name hidden ⟨tag, closing, within⟩
  rcases List.infix_cons_iff.mp within with start | later
  · obtain ⟨more, rfl, -⟩ := closing.exists_cons hidden
    exact other (List.cons_prefix_cons.mp start).1.symm
  · exact none name hidden ⟨tag, closing, later⟩

/-- No closing tag goes over a dash. -/
lemma closesNone_append_cons (none : ClosesNone s) (none' : ClosesNone t) :
    ClosesNone (s ++ '-' :: t) := by
  rintro name hidden ⟨tag, closing, within⟩
  have noDash : '-' ∉ tag := by
    obtain ⟨more, rfl, -, noDash⟩ := closing.exists_cons hidden
    simpa using noDash
  rcases isInfix_or_of_isInfix_append_cons noDash within with first | second
  · exact none name hidden ⟨tag, closing, first⟩
  · exact none' name hidden ⟨tag, closing, second⟩

/-- What is not closed is not closed further on. -/
lemma Unclosed.of_cons (unclosed : Unclosed (c :: s)) : Unclosed s := by
  intro inside rest eq noEnd
  -- If the first tag ends right here, nothing is closed in all that follows.
  by_cases mark : c = '>'
  · have none : ClosesNone s := unclosed [] s (by simp [mark]) (by simp)
    apply none.of_isInfix
    rw [eq]
    exact ⟨inside ++ ['>'], [], by simp⟩
  · exact unclosed (c :: inside) rest (by simp [eq]) (by simp [noEnd, Ne.symm mark])

/-- What is not closed is not taken. -/
lemma Unclosed.hiddenBlock_eq_none (unclosed : Unclosed s) : hiddenBlock s = none := by
  apply Markup.hiddenBlock_eq_none
  rintro element after @⟨name, other, opening, body, closing, hidden, opens, -, hidden', closes⟩ rfl
  obtain ⟨inside, rfl, noEnd⟩ := opens.exists_concat hidden
  have none : ClosesNone (body ++ closing ++ after) := unclosed inside _ (by simp) noEnd
  exact none other hidden' ⟨closing, closes, body, after, rfl⟩

/-- Where no hidden element is closed, none is found. -/
lemma Unclosed.replaceAll_eq (unclosed : Unclosed s) : hiddenBlock.replaceAll s = s := by
  induction s with
  | nil => exact Pattern.replaceAll_nil
  | cons c s ih =>
    rw [Pattern.replaceAll_of_none unclosed.hiddenBlock_eq_none, ih unclosed.of_cons]

/-- A text without a closing tag has none after its first tag. -/
lemma ClosesNone.unclosed (none : ClosesNone s) : Unclosed s := by
  rintro inside rest rfl -
  exact none.of_isInfix ⟨inside ++ ['>'], [], by simp⟩

/-- The end of a comment opens and closes nothing. -/
lemma Unclosed.append_end (unclosed : Unclosed s) (none : ClosesNone t) :
    Unclosed (s ++ ("-->".toList ++ t)) := by
  intro inside rest eq noEnd
  -- The first tag ends in the text, or it takes the end of the comment as its own.
  by_cases ended : '>' ∈ s
  · obtain ⟨before, after, rfl, first⟩ := List.eq_append_cons_of_mem ended
    have split : before ++ '>' :: (after ++ ("-->".toList ++ t)) = inside ++ '>' :: rest := by
      simpa using eq
    obtain ⟨-, rfl⟩ := append_cons_inj first noEnd split
    have none' : ClosesNone ("->".toList ++ t) :=
      closesNone_cons (by decide) (closesNone_cons (by decide) none)
    exact closesNone_append_cons (unclosed before after rfl first) none'
  · have split : (s ++ "--".toList) ++ '>' :: t = inside ++ '>' :: rest := by
      simpa using eq
    obtain ⟨-, rfl⟩ := append_cons_inj (by simp [ended]) noEnd split
    exact none

/-- What is opened and not closed is closed by the next closing tag. -/
lemma HiddenElement.of_unclosed (opens : OpensHidden s) (unclosed : Unclosed s) (ended : '>' ∈ s)
    (hidden : name ∈ hiddenNames) (closing : ClosingTag name tag) : HiddenElement (s ++ tag) := by
  obtain ⟨inside, rest, rfl, noEnd⟩ := List.eq_append_cons_of_mem ended
  obtain ⟨own, hidden', opening⟩ := opens.exists_openingTag noEnd
  have none : ClosesNone rest := unclosed inside rest rfl noEnd
  simpa using HiddenElement.intro hidden' opening none hidden closing

/-- In a text all that is opened is closed, or something is left open after such a text. -/
lemma allClosed_or_leftOpen (s : List Char) :
    AllClosed s ∨ ∃ closed opened, s = closed ++ opened ∧ AllClosed closed ∧ LeftOpen opened := by
  cases s with
  | nil => exact .inl .nil
  | cons c rest =>
    by_cases opens : OpensHidden (c :: rest)
    · by_cases unclosed : Unclosed (c :: rest)
      · exact .inr ⟨[], c :: rest, rfl, .nil, opens, unclosed⟩
      · -- A hidden element comes first, and the same holds of what is after it.
        simp only [Unclosed, not_forall] at unclosed
        obtain ⟨inside, after, eq, noEnd, closes⟩ := unclosed
        obtain ⟨name, hidden, opening⟩ := (eq ▸ opens).exists_openingTag noEnd
        rcases closesNone_or_exists after with
          none | ⟨body, other, hidden', tag, more, rfl, none, closing⟩
        · exact absurd none closes
        · have element := HiddenElement.intro hidden opening none hidden' closing
          have whole : c :: rest = (inside ++ ['>'] ++ body ++ tag) ++ more := by simpa using eq
          have shorter : more.length ≤ rest.length := by
            have same := congrArg List.length eq
            simp only [List.length_cons, List.length_append] at same
            omega
          rw [whole]
          rcases allClosed_or_leftOpen more with closed | ⟨closed, opened, rfl, closed', left⟩
          · exact .inl (.element element closed)
          · exact .inr ⟨_, opened, (List.append_assoc _ _ _).symm, .element element closed', left⟩
    · rcases allClosed_or_leftOpen rest with closed | ⟨closed, opened, rfl, closed', left⟩
      · exact .inl (.char opens closed)
      · obtain ⟨more, rfl⟩ := left.opens.exists_cons
        have opens' : ¬ OpensHidden (c :: closed) := by
          rwa [← List.cons_append, opensHidden_append_iff (by simp) (by decide)] at opens
        exact .inr ⟨c :: closed, _, rfl, .char opens' closed', left⟩
termination_by s.length

end unclosed

section comments

variable {before body after closed opened : List Char}

/-- No hidden element starts where a comment does. -/
lemma replaceAll_commentStart (noTag : '<' ∉ before) (s : List Char) :
    hiddenBlock.replaceAll (before ++ ("<!--".toList ++ s)) =
      before ++ ("<!--".toList ++ hiddenBlock.replaceAll s) := by
  have fails : hiddenBlock ('<' :: ("!--".toList ++ s)) = none := by
    simp [hiddenBlock, dropOpening, dropLead, dropHiddenName, hiddenNames, dropName, foldsTo]
  have marks : hiddenBlock.replaceAll ("!--".toList ++ s) =
      "!--".toList ++ hiddenBlock.replaceAll s :=
    hiddenBlock_startsWith.replaceAll_append (by decide) s
  have start : hiddenBlock.replaceAll ('<' :: ("!--".toList ++ s)) =
      '<' :: ("!--".toList ++ hiddenBlock.replaceAll s) := by
    rw [Pattern.replaceAll_of_none fails, marks]
  rw [hiddenBlock_startsWith.replaceAll_append noTag]
  exact congrArg (before ++ ·) start

/-- The end of a comment is no part of a hidden element. -/
lemma replaceAll_commentEnd (s : List Char) :
    hiddenBlock.replaceAll ("-->".toList ++ s) = "-->".toList ++ hiddenBlock.replaceAll s :=
  hiddenBlock_startsWith.replaceAll_append (by decide) s

/-- What is left open is not empty. -/
lemma LeftOpen.ne_nil (left : LeftOpen opened) : opened ≠ [] := by
  obtain ⟨more, rfl⟩ := left.opens.exists_cons
  simp

/-- Hidden elements are taken apart from what is left open after them. -/
lemma LeftOpen.replaceAll_append (left : LeftOpen opened) (allClosed : AllClosed closed)
    (t : List Char) :
    hiddenBlock.replaceAll (closed ++ (opened ++ t)) =
      hiddenBlock.replaceAll closed ++ hiddenBlock.replaceAll (opened ++ t) := by
  obtain ⟨more, rfl⟩ := left.opens.exists_cons
  exact allClosed.replaceAll_append (by decide) (more ++ t)

/-- A comment becomes a space if hidden elements in it and after it are found each for itself. -/
lemma plainText_comment_of_apart (noEnd : ¬ "-->".toList <:+: body) (noTag : '<' ∉ before)
    (apart : hiddenBlock.replaceAll (body ++ ("-->".toList ++ after)) =
      hiddenBlock.replaceAll body ++ ("-->".toList ++ hiddenBlock.replaceAll after)) :
    plainText (String.ofList (before ++ commentOf body ++ after)) =
      plainText (String.ofList (before ++ ' ' :: after)) := by
  -- What is taken from the body leaves spaces, so no end of a comment comes about.
  have noEnd' : ¬ "-->".toList <:+: hiddenBlock.replaceAll body := fun within =>
    noEnd (hiddenBlock_leavesSpace.isInfix (by decide) (by decide) within)
  have same :
      stripTags (before ++ commentOf body ++ after) = stripTags (before ++ ' ' :: after) := by
    calc stripTags (before ++ commentOf body ++ after)
        = tag.replaceAll (before ++ ("<!--".toList ++ (hiddenBlock.replaceAll body ++
            ("-->".toList ++ hiddenBlock.replaceAll after)))) := by
          rw [stripTags, commentOf, List.append_assoc, List.append_assoc, List.append_assoc,
            replaceAll_commentStart noTag, apart]
      _ = before ++ ' ' :: tag.replaceAll (hiddenBlock.replaceAll after) := by
          rw [tag_startsWith.replaceAll_append noTag, replaceAll_comment noEnd']
      _ = stripTags (before ++ ' ' :: after) := by
          rw [stripTags, hiddenBlock_startsWith.replaceAll_append noTag,
            hiddenBlock_startsWith.replaceAll_cons (by decide),
            tag_startsWith.replaceAll_append noTag, tag_startsWith.replaceAll_cons (by decide)]
  simp only [plainText, String.toList_ofList, plainChars, same]

/-- What a page shows of a comment. -/
structure HidesComment (body : List Char) : Prop where
  /-- Nothing, if every hidden element that is opened in it is closed in it. -/
  closed : AllClosed body → ∀ before after, '<' ∉ before →
    plainText (String.ofList (before ++ commentOf body ++ after)) =
      plainText (String.ofList (before ++ ' ' :: after))
  /-- Nothing either, if one is left open and none is closed after the comment. -/
  unclosed : ∀ closed opened, body = closed ++ opened → AllClosed closed → LeftOpen opened →
    ∀ before after, '<' ∉ before → ClosesNone after →
      plainText (String.ofList (before ++ commentOf body ++ after)) =
        plainText (String.ofList (before ++ ' ' :: after))
  /-- But if one is closed after the comment, what comes before that is lost, and the comment has
  no end any more. -/
  swallowing : ∀ closed opened, body = closed ++ opened → AllClosed closed → LeftOpen opened →
    ∀ before inner name tag rest, '<' ∉ before → ClosesNone inner → name ∈ hiddenNames →
      ClosingTag name tag →
      plainText (String.ofList (before ++ commentOf body ++ (inner ++ tag ++ rest))) =
        plainText (String.ofList (before ++ "<!--".toList ++ closed ++ ' ' :: rest))
  /-- There is no other case. -/
  covered : AllClosed body ∨
    ∃ closed opened, body = closed ++ opened ∧ AllClosed closed ∧ LeftOpen opened

/-- A comment hides its own text and nothing else, unless a hidden element is opened in it that is
closed only after it. -/
theorem hidesComment_of_no_end (noEnd : ¬ "-->".toList <:+: body) : HidesComment body := by
  constructor
  case closed =>
    intro allClosed before after noTag
    apply plainText_comment_of_apart noEnd noTag
    rw [← replaceAll_commentEnd]
    exact allClosed.replaceAll_append (by decide) _
  case unclosed =>
    rintro closed opened rfl allClosed left before after noTag none
    have own : hiddenBlock.replaceAll (closed ++ opened) =
        hiddenBlock.replaceAll closed ++ opened := by
      have inFront := left.replaceAll_append allClosed []
      rwa [List.append_nil, left.unclosed.replaceAll_eq] at inFront
    apply plainText_comment_of_apart noEnd noTag
    rw [List.append_assoc, left.replaceAll_append allClosed,
      (left.unclosed.append_end none).replaceAll_eq, own, none.unclosed.replaceAll_eq,
      List.append_assoc]
  case swallowing =>
    rintro closed opened rfl allClosed left before inner name tag rest noTag none hidden closing
    -- The element that is left open goes on over the end of the comment.
    have opens : OpensHidden (opened ++ ("-->".toList ++ inner)) :=
      (opensHidden_append_iff left.ne_nil (by decide)).mpr left.opens
    have element : HiddenElement (opened ++ ("-->".toList ++ inner) ++ tag) :=
      .of_unclosed opens (left.unclosed.append_end none) (by simp) hidden closing
    have taken := element.replaceAll_append rest
    simp only [List.append_assoc] at taken
    apply plainText_congr
    calc hiddenBlock.replaceAll (before ++ commentOf (closed ++ opened) ++ (inner ++ tag ++ rest))
        = before ++ ("<!--".toList ++ (hiddenBlock.replaceAll closed ++
            ' ' :: hiddenBlock.replaceAll rest)) := by
          simp only [commentOf, List.append_assoc]
          rw [replaceAll_commentStart noTag, left.replaceAll_append allClosed, taken]
      _ = hiddenBlock.replaceAll (before ++ "<!--".toList ++ closed ++ ' ' :: rest) := by
          simp only [List.append_assoc]
          rw [replaceAll_commentStart noTag, allClosed.replaceAll_append (by decide),
            hiddenBlock_startsWith.replaceAll_cons (by decide)]
  case covered => exact allClosed_or_leftOpen body

/-- So for a comment with a tag, a style sheet and the start of a script in it. -/
theorem hidesComment_of_no_end_script :
    let body := "<b>old</b> -- <style>p > b</style> <script>".toList
    ¬ "-->".toList <:+: body ∧ HidesComment body := by
  intro body
  have noEnd : ¬ "-->".toList <:+: body := by decide
  exact ⟨noEnd, hidesComment_of_no_end noEnd⟩

example : plainText "<!-- <script> -->shown<script>run();</script> end" = "<!-- end" := by
  decide +kernel

/-- A comment takes text with it that comes after it, when a script is opened in it. -/
theorem not_hidden_of_opened :
    ¬ ∀ body before after : List Char, ¬ "-->".toList <:+: body → '<' ∉ before →
      plainText (String.ofList (before ++ commentOf body ++ after)) =
        plainText (String.ofList (before ++ ' ' :: after)) := by
  intro hidden
  have same := hidden " <script> ".toList [] "shown<script>run();</script>".toList (by decide)
    (by decide)
  exact absurd same (by decide +kernel)

end comments

end Markup
end PageSearch
