import Mathlib.Tactic.MkIffOfInductiveProp
import PageSearch.Markup.PlainText
import PageSearch.Proofs.Markup.Entity
import PageSearch.Proofs.Markup.HiddenBlock
import PageSearch.Proofs.Markup.Tag
import PageSearch.Proofs.Text.Runs

/-!
# Pages of texts and tags

A page is put together from texts and tags that are no comments and open no hidden element. Nothing
of it is hidden, each tag becomes a space, and since no entity goes over a space, the texts between
the tags are decoded and taken apart into words each for itself.
-/

namespace PageSearch
namespace Markup

open Text

/-- The inside of a tag starts with the name of a hidden element, in any letter case. -/
def StartsHidden (inside : List Char) : Prop :=
  ∃ name ∈ hiddenNames, ∃ start, start <+: inside ∧
    List.Forall₂ (fun letter c => foldsTo letter c = true) name start

/-- The inside of a tag that is no comment and opens no hidden element. -/
@[mk_iff]
structure OrdinaryTag (inside : List Char) : Prop where
  noOpen : '<' ∉ inside
  noClose : '>' ∉ inside
  noComment : ¬ "!--".toList <+: inside
  notHidden : ¬ StartsHidden inside

/-- A piece of a page. -/
inductive Piece where
  | text (s : List Char) (noTag : '<' ∉ s)
  | tag (inside : List Char) (ordinary : OrdinaryTag inside)

/-- A piece as it stands in a page. -/
def Piece.written : Piece → List Char
  | text s _ => s
  | tag inside _ => '<' :: (inside ++ ['>'])

/-- A piece with a space in the place of a tag. -/
def Piece.blanked : Piece → List Char
  | text s _ => s
  | tag _ _ => [' ']

/-- The texts between the tags, also before the first and after the last one. Texts without a tag
between them are one. -/
def textsOf : List Piece → List (List Char)
  | [] => [[]]
  | .text s _ :: rest => (textsOf rest).modifyHead (s ++ ·)
  | .tag _ _ :: rest => [] :: textsOf rest

section patterns

variable {inside : List Char}

/-- A tag is that of a hidden element if it begins with one of their names. -/
lemma startsHidden_iff : StartsHidden inside ↔ (dropHiddenName inside).isSome = true := by
  rw [dropHiddenName, List.findSome?_isSome_iff]
  simp only [Option.isSome_iff_exists, dropName_eq_some_iff]
  constructor
  · intro h
    obtain ⟨name, hidden, start, ⟨rest, eq⟩, same⟩ := h
    exact ⟨name, hidden, rest, start, eq.symm, same⟩
  · intro h
    obtain ⟨name, hidden, rest, start, eq, same⟩ := h
    exact ⟨name, hidden, start, ⟨rest, eq.symm⟩, same⟩

/-- The name of a hidden element does not go on after the end of a tag. -/
lemma StartsHidden.of_append {after : List Char} (h : StartsHidden (inside ++ '>' :: after)) :
    StartsHidden inside := by
  obtain ⟨name, hidden, start, starts, same⟩ := h
  have noEnd : '>' ∉ start := not_mem_of_spelled hidden same (by decide)
  exact ⟨name, hidden, start, isPrefix_of_isPrefix_append_cons noEnd starts, same⟩

/-- An ordinary tag does not begin with the name of a hidden element. -/
lemma OrdinaryTag.dropHiddenName (ordinary : OrdinaryTag inside) (after : List Char) :
    dropHiddenName (inside ++ '>' :: after) = none := by
  rw [← Option.not_isSome_iff_eq_none, ← startsHidden_iff]
  exact fun hidden => ordinary.notHidden hidden.of_append

/-- It does not begin a comment. -/
lemma OrdinaryTag.dropComment (ordinary : OrdinaryTag inside) (after : List Char) :
    dropComment ('<' :: (inside ++ '>' :: after)) = none := by
  rw [Option.eq_none_iff_forall_not_mem]
  intro rest mem
  obtain ⟨body, -, eq⟩ := dropComment_eq_some_iff.mp mem
  have start : "!--".toList <+: inside ++ '>' :: after :=
    ⟨body ++ "-->".toList ++ rest, by simpa using eq.symm⟩
  exact ordinary.noComment (isPrefix_of_isPrefix_append_cons (by decide) start)

instance : Decidable (StartsHidden inside) :=
  decidable_of_iff _ startsHidden_iff.symm

instance : Decidable (OrdinaryTag inside) :=
  decidable_of_iff _ (ordinaryTag_iff inside).symm

example : OrdinaryTag "/script".toList ∧ ¬ OrdinaryTag "ſCRIPT src=x".toList := by decide

end patterns

section pages

variable {inside : List Char}

/-- A tag is written between brackets. -/
lemma Piece.written_tag_append (ordinary : OrdinaryTag inside) (after : List Char) :
    (Piece.tag inside ordinary).written ++ after = '<' :: (inside ++ '>' :: after) := by
  simp [Piece.written]

/-- No hidden block starts with a piece. -/
lemma replaceAll_hiddenBlock_append (piece : Piece) (after : List Char) :
    hiddenBlock.replaceAll (piece.written ++ after) =
      piece.written ++ hiddenBlock.replaceAll after := by
  cases piece with
  | text s noTag => exact hiddenBlock_startsWith.replaceAll_append noTag after
  | tag inside ordinary =>
    have fails : hiddenBlock ('<' :: (inside ++ '>' :: after)) = none := by
      simp [hiddenBlock, dropOpening, dropLead, ordinary.dropHiddenName]
    -- Past its bracket the tag has no place where a hidden block could start.
    have noTag : '<' ∉ inside ++ ['>'] := by simpa using ordinary.noOpen
    have others := hiddenBlock_startsWith.replaceAll_append noTag after
    rw [List.append_assoc, List.append_assoc, List.singleton_append, List.singleton_append]
      at others
    rw [Piece.written_tag_append, Piece.written_tag_append, Pattern.replaceAll_of_none fails,
      others]

/-- A tag becomes a space, whatever follows it, and a text stays. -/
lemma replaceAll_tag_append (piece : Piece) (after : List Char) :
    tag.replaceAll (piece.written ++ after) = piece.blanked ++ tag.replaceAll after := by
  cases piece with
  | text s noTag => exact tag_startsWith.replaceAll_append noTag after
  | tag inside ordinary =>
    have taken : dropThrough '>' (inside ++ '>' :: after) = some after :=
      dropThrough_eq_some_iff.mpr ⟨inside, rfl, ordinary.noClose⟩
    have found : tag ('<' :: (inside ++ '>' :: after)) = some ([' '], after) := by
      simp [tag, ordinary.dropComment, dropTag, dropLead, taken]
    rw [Piece.written_tag_append, Pattern.replaceAll_of_some found (by simp; omega), Piece.blanked]

/-- Nothing of a page of texts and ordinary tags is hidden. -/
lemma replaceAll_hiddenBlock_written (pieces : List Piece) :
    hiddenBlock.replaceAll (pieces.flatMap Piece.written) = pieces.flatMap Piece.written := by
  induction pieces with
  | nil => exact Pattern.replaceAll_nil
  | cons piece rest ih => rw [List.flatMap_cons, replaceAll_hiddenBlock_append, ih]

/-- Every tag that is written is replaced by a space, and the texts are kept. -/
lemma replaceAll_tag_written (pieces : List Piece) :
    tag.replaceAll (pieces.flatMap Piece.written) = pieces.flatMap Piece.blanked := by
  induction pieces with
  | nil => exact Pattern.replaceAll_nil
  | cons piece rest ih =>
    rw [List.flatMap_cons, List.flatMap_cons, replaceAll_tag_append, ih]

/-- There is a text before the first tag and after every one. -/
lemma textsOf_ne_nil (pieces : List Piece) : textsOf pieces ≠ [] := by
  cases pieces with
  | nil => simp [textsOf]
  | cons piece rest =>
    cases piece with
    | text s noTag => simpa [textsOf] using textsOf_ne_nil rest
    | tag inside ordinary => simp [textsOf]

/-- With a space for every tag, a page is its texts with spaces between them. -/
lemma blanked_eq_intercalate (pieces : List Piece) :
    pieces.flatMap Piece.blanked = [' '].intercalate (textsOf pieces) := by
  induction pieces with
  | nil => rfl
  | cons piece rest ih =>
    rw [List.flatMap_cons, ih]
    -- A text is joined to the first one of the rest, and a tag starts a new one.
    obtain ⟨first, others, eq⟩ := List.exists_cons_of_ne_nil (textsOf_ne_nil rest)
    cases piece with
    | text s noTag =>
      simp only [Piece.blanked, textsOf, eq, List.modifyHead_cons]
      cases others with
      | nil => simp
      | cons second others => simp [List.intercalate_cons_cons]
    | tag inside ordinary =>
      simp [Piece.blanked, textsOf, eq, List.intercalate_cons_cons]

/-- The text of a page of texts and ordinary tags: a space for each tag, decoded once from left to
right, with single spaces between its words. Its words are those of the texts between the tags, each
decoded for itself, one text after the other. -/
theorem plainText_written (pieces : List Piece) :
    ∃ out, (∀ other, Decoded (pieces.flatMap Piece.blanked) other ↔ other = out) ∧
      plainText (String.ofList (pieces.flatMap Piece.written)) = String.ofList (collapse out) ∧
      ∃ outs, List.Forall₂ Decoded (textsOf pieces) outs ∧
        words (collapse out) = outs.flatMap words := by
  obtain ⟨outs, each⟩ : ∃ outs, List.Forall₂ Decoded (textsOf pieces) outs := by
    refine ⟨(textsOf pieces).map entity.replaceAll, ?_⟩
    rw [List.forall₂_map_right_iff, List.forall₂_same]
    exact fun s _ => decoded_replaceAll s
  have whole : Decoded (pieces.flatMap Piece.blanked) ([' '].intercalate outs) := by
    rw [blanked_eq_intercalate]
    exact Decoded.intercalate each
  have only := decoded_iff.mp whole
  refine ⟨[' '].intercalate outs, fun other => ?_, ?_, outs, each, ?_⟩
  · rw [decoded_iff, only, eq_comm]
  · rw [plainText, String.toList_ofList, plainChars, stripTags, replaceAll_hiddenBlock_written,
      replaceAll_tag_written, only]
  · rw [words_collapse]
    exact runs_intercalate isBlank_space outs

end pages

end Markup
end PageSearch
