import PageSearch.Markup.Tag
import PageSearch.Proofs.Markup.Pattern

/-!
# Tags and comments

What a tag and a comment are, said without the functions that take them. A comment ends at the first
`-->` after its start, so that it can hold any text without one.
-/

namespace PageSearch.Markup

variable {s rest replacement after body : List Char} {c : Char}

/-- A tag is dropped up to the first closing bracket. -/
lemma dropTag_eq_some_iff :
    dropTag s = some rest ↔ ∃ inside, '>' ∉ inside ∧ s = '<' :: (inside ++ '>' :: rest) := by
  simp only [dropTag, Option.bind_eq_bind, Option.bind_eq_some_iff, dropLead_eq_some_iff,
    dropThrough_eq_some_iff]
  constructor
  · rintro ⟨_, rfl, inside, rfl, noEnd⟩
    exact ⟨inside, noEnd, rfl⟩
  · rintro ⟨inside, noEnd, rfl⟩
    exact ⟨inside ++ '>' :: rest, rfl, inside, rfl, noEnd⟩

/-- A text that starts with the end of a comment and goes on with one starts with one already. -/
lemma isPrefix_of_isPrefix_append_end (ne : s ≠ [])
    (h : "-->".toList <+: s ++ ("-->".toList ++ after)) : "-->".toList <+: s := by
  match s, ne with
  | [_], _ => simp at h
  | [_, _], _ => simp at h
  | a :: b :: c :: s, _ => simpa using h

/-- A comment is dropped up to the first mark of its end. -/
lemma dropComment_eq_some_iff :
    dropComment s = some rest ↔
      ∃ body, ¬ "-->".toList <:+: body ∧ s = "<!--".toList ++ body ++ "-->".toList ++ rest := by
  simp only [dropComment, Option.bind_eq_bind, Option.bind_eq_some_iff, dropLead_eq_some_iff,
    dropThroughFirst_eq_some_iff]
  constructor
  · rintro ⟨_, rfl, body, _, rfl, rfl, first⟩
    refine ⟨body, ?_, by simp⟩
    rintro ⟨before, more, rfl⟩
    have fails := first ("-->".toList ++ more) ⟨before, by simp⟩ (by simp)
    rw [List.append_assoc] at fails
    simp [dropLead] at fails
  · rintro ⟨body, noEnd, rfl⟩
    refine ⟨body ++ ("-->".toList ++ rest), by simp, body, "-->".toList ++ rest, rfl, rfl, ?_⟩
    intro tail suffix ne
    rw [Option.eq_none_iff_forall_not_mem]
    intro after found
    have start : "-->".toList <+: tail ++ ("-->".toList ++ rest) :=
      ⟨after, (dropLead_eq_some_iff.mp found).symm⟩
    exact noEnd ((isPrefix_of_isPrefix_append_end ne start).isInfix.trans suffix.isInfix)

/-- Every tag starts with a bracket. -/
lemma tag_startsWith : tag.StartsWith '<' := by
  intro d rest other
  simp [tag, dropComment, dropTag, dropLead, other]

/-- A comment or a tag goes from a `<` to a `>`. -/
lemma exists_of_tag (found : tag s = some (replacement, after)) :
    replacement = [' '] ∧ ∃ inside, s = '<' :: (inside ++ '>' :: after) := by
  simp only [tag, Option.map_eq_some_iff, Option.or_eq_some_iff, Prod.mk.injEq] at found
  obtain ⟨rest, comment | ⟨-, opening⟩, rfl, rfl⟩ := found
  · obtain ⟨body, -, rfl⟩ := dropComment_eq_some_iff.mp comment
    exact ⟨rfl, "!--".toList ++ body ++ "--".toList, by simp⟩
  · obtain ⟨inside, -, rfl⟩ := dropTag_eq_some_iff.mp opening
    exact ⟨rfl, inside, rfl⟩

/-- A space is left in its place. -/
lemma tag_leavesSpace : tag.LeavesSpace := by
  intro s replacement after found
  obtain ⟨rfl, inside, rfl⟩ := exists_of_tag found
  exact ⟨rfl, '<' :: (inside ++ ['>']), by simp⟩

/-- A comment becomes a space, whatever it has in it. -/
lemma replaceAll_comment (noEnd : ¬ "-->".toList <:+: body) (after : List Char) :
    tag.replaceAll ("<!--".toList ++ (body ++ ("-->".toList ++ after))) =
      ' ' :: tag.replaceAll after := by
  have taken : dropComment ('<' :: ("!--".toList ++ (body ++ ("-->".toList ++ after)))) =
      some after :=
    dropComment_eq_some_iff.mpr ⟨body, noEnd, by simp⟩
  have found : tag ('<' :: ("!--".toList ++ (body ++ ("-->".toList ++ after)))) =
      some ([' '], after) := by
    rw [tag, taken]
    rfl
  exact Pattern.replaceAll_of_some found (by simp; omega)

/-- A `<` that starts no tag and no comment has no `>` after it. -/
lemma not_mem_of_tag_eq_none (fails : tag ('<' :: rest) = none) : '>' ∉ rest := by
  intro mem
  obtain ⟨inside, after, rfl, first⟩ := List.eq_append_cons_of_mem mem
  have taken : dropTag ('<' :: (inside ++ '>' :: after)) = some after :=
    dropTag_eq_some_iff.mpr ⟨inside, first, rfl⟩
  simp [tag, taken] at fails

end PageSearch.Markup
