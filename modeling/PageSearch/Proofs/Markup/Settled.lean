import PageSearch.Proofs.Markup.Entity
import PageSearch.Proofs.Markup.HiddenBlock
import PageSearch.Proofs.Markup.Tag
import PageSearch.Proofs.Text.Runs

/-!
# What is left of a page

Whatever a page looks like, no tag is left in its text: a `<` that is left has no `>` after it, even
if what was around a tag comes together. A page without entities comes out in such a form that it is
its own text.
-/

namespace PageSearch
namespace Markup

open Text

/-- No `<` has a `>` after it. -/
def Untagged (s : List Char) : Prop :=
  s.Pairwise fun c d => c = '<' → d ≠ '>'

/-- Words with one space between any two of them, and nothing else. -/
def SinglySpaced (s : List Char) : Prop :=
  ∃ words, s = [' '].intercalate words ∧ ∀ word ∈ words, word ≠ [] ∧ ∀ c ∈ word, isBlank c = false

variable {s : List Char}

/-- After tags and comments have been taken out there are none. -/
lemma untagged_replaceAll_tag (s : List Char) : Untagged (tag.replaceAll s) := by
  induction s using Pattern.replaceAll.induct tag with
  | case1 => simp [Untagged]
  | case2 c rest fails ih =>
    rw [Pattern.replaceAll_of_none fails]
    refine .cons ?_ ih
    -- A bracket that is kept has no end after it, and replacements bring none.
    rintro d mem rfl rfl
    exact not_mem_of_tag_eq_none fails (tag_leavesSpace.mem (by decide) mem)
  | case3 c rest replacement after found le ih =>
    obtain ⟨rfl, -⟩ := exists_of_tag found
    rw [Pattern.replaceAll_of_some found le]
    exact .cons (by rintro d - ⟨⟩) ih
  | case4 c rest replacement after found gt _ =>
    -- A match never leaves more than there was.
    obtain ⟨-, inside, eq⟩ := exists_of_tag found
    have longer := congrArg List.length eq
    simp only [List.length_cons, List.length_append] at longer
    omega

/-- Blanks have no part in whether a text is without tags. -/
lemma untagged_filter_iff : Untagged (s.filter (!isBlank ·)) ↔ Untagged s := by
  rw [Untagged, List.pairwise_filter, Untagged]
  apply List.Pairwise.iff
  intro c d
  constructor
  · rintro apart rfl rfl
    exact apart (by decide) (by decide) rfl rfl
  · exact fun apart _ _ => apart

/-- To collapse blanks makes no tag and breaks none. -/
lemma untagged_collapse_iff : Untagged (collapse s) ↔ Untagged s := by
  rw [← untagged_filter_iff, filter_collapse, untagged_filter_iff]

/-- After that single spaces stand between words, and nowhere else. -/
lemma singlySpaced_collapse (s : List Char) : SinglySpaced (collapse s) := by
  refine ⟨words s, rfl, ?_⟩
  intro word mem
  obtain ⟨ne, uncut, -⟩ := mem_runs_iff.mp mem
  exact ⟨ne, uncut⟩

/-- A pattern that goes from a `<` to a `>` finds nothing in a text without tags. -/
lemma Untagged.replaceAll_eq {pattern : Pattern} (untagged : Untagged s)
    (takes : ∀ t replacement after, pattern t = some (replacement, after) →
      ∃ inside, t = '<' :: (inside ++ '>' :: after)) : pattern.replaceAll s = s := by
  apply Pattern.replaceAll_eq_self
  intro tail suffix
  rw [Option.eq_none_iff_forall_not_mem]
  rintro ⟨replacement, after⟩ found
  obtain ⟨inside, rfl⟩ := takes _ _ _ found
  have own : Untagged ('<' :: (inside ++ '>' :: after)) := untagged.sublist suffix.sublist
  exact (List.pairwise_cons.mp own).1 '>' (by simp) rfl rfl

/-- A text without tags is kept. -/
lemma Untagged.stripTags_eq (untagged : Untagged s) : stripTags s = s := by
  have hidden : hiddenBlock.replaceAll s = s := by
    apply untagged.replaceAll_eq
    intro t replacement after found
    obtain ⟨-, element, hidden, rfl⟩ := hiddenBlock_eq_some_iff.mp found
    obtain ⟨inside, rfl⟩ := hidden.exists_inside
    exact ⟨inside, by simp⟩
  have tags : tag.replaceAll s = s := by
    apply untagged.replaceAll_eq
    intro t replacement after found
    exact (exists_of_tag found).2
  rw [stripTags, hidden, tags]

/-- A text as the text of a page is. -/
structure Settled (text : String) : Prop where
  untagged : Untagged text.toList
  singlySpaced : SinglySpaced text.toList
  fixed : plainText text = text

/-- The text of a page without entities has no tags, is singly spaced and is its own text. -/
theorem settled_plainText {html : String} (noEntity : '&' ∉ html.toList) :
    Settled (plainText html) := by
  have noEntity' : '&' ∉ stripTags html.toList := fun mem =>
    noEntity (hiddenBlock_leavesSpace.mem (by decide) (tag_leavesSpace.mem (by decide) mem))
  have shown : plainChars html.toList = collapse (stripTags html.toList) := by
    rw [plainChars, entity_startsWith.replaceAll_eq noEntity']
  have untagged : Untagged (plainChars html.toList) := by
    rw [shown, untagged_collapse_iff]
    exact untagged_replaceAll_tag _
  have noEntity'' : '&' ∉ plainChars html.toList := by
    rw [shown]
    exact fun mem => noEntity' (mem_of_mem_collapse (by decide) mem)
  constructor
  case untagged => rwa [plainText, String.toList_ofList]
  case singlySpaced =>
    rw [plainText, String.toList_ofList, shown]
    exact singlySpaced_collapse _
  case fixed =>
    have again : plainChars (plainChars html.toList) = plainChars html.toList := by
      rw [plainChars, untagged.stripTags_eq, entity_startsWith.replaceAll_eq noEntity'', shown,
        collapse_collapse]
    rw [plainText, plainText, String.toList_ofList, again]

/-- So for a page of broken tags, some of which only come about when others are taken out. -/
theorem settled_plainText_broken :
    let html := "<<b>a < b</b> <scr<script>x</script>ipt> c > d <!-- e\n </style> f <"
    '&' ∉ html.toList ∧ Settled (plainText html) := by
  intro html
  have noEntity : '&' ∉ html.toList := by decide
  exact ⟨noEntity, settled_plainText noEntity⟩

end Markup
end PageSearch
