import Mathlib.Algebra.Group.Nat.Defs
import PageSearch.Proofs.Markup.Entity
import PageSearch.Proofs.Markup.HiddenBlock
import PageSearch.Proofs.Markup.Tag

/-!
# Escaped texts

A text can be written in a page so that nothing of it is taken as markup: characters become
entities, as many as one likes but every `&` and every `<`. The page shows the text that was
written, also if it looks like an entity or a tag itself. Every text can be written in this way.
-/

namespace PageSearch
namespace Markup

open Text

/-- What is written in a page for a text, character by character. -/
inductive Escaped : List Char → List Char → Prop where
  | nil :
    Escaped [] []
  | literal {c written text} :
    c ≠ '&' →
    c ≠ '<' →
    Escaped written text →
    Escaped (c :: written) (c :: text)
  | entity {inside c written text} :
    StandsFor inside c →
    Escaped written text →
    Escaped ('&' :: (inside ++ ';' :: written)) (c :: text)

variable {written text : List Char}

/-- No tag starts in what is written. -/
lemma Escaped.not_mem (h : Escaped written text) : '<' ∉ written := by
  induction h with
  | nil => simp
  | literal _ noTag _ ih => simp [Ne.symm noTag, ih]
  | @entity inside _ _ _ stands _ ih =>
    have noTag : '<' ∉ inside := stands.not_mem ⟨by decide, by decide⟩
    simp [noTag, ih]

/-- What is written is read entity by entity. -/
lemma Escaped.decoded (h : Escaped written text) : Decoded written text := by
  induction h with
  | nil => exact .nil
  | @literal c written text noEntity _ _ ih =>
    refine .other ?_ ih
    intro inside d after _ eq
    exact noEntity (List.cons.inj eq).1
  | entity stands _ ih => exact .entity stands ih

/-- A number with so many digits has a numeral with no more. -/
lemma exists_numeral (k : Nat) {n : Nat} (lt : n < 10 ^ (k + 1)) :
    ∃ digits, Numeral 10 digits n ∧ digits ≠ [] ∧ digits.length ≤ k + 1 := by
  have sign : ∀ v < 10, digitSigns[v]? = some (digitSigns.getD v '0').toLower := by decide
  -- By the number of digits: the last one is the remainder by ten.
  induction k generalizing n with
  | zero =>
    have digit : Numeral 10 ([] ++ [digitSigns.getD n '0']) (0 * 10 + n) :=
      .snoc .nil lt (sign n lt)
    rw [Nat.zero_mul, Nat.zero_add] at digit
    exact ⟨_, digit, by simp, by simp⟩
  | succ k ih =>
    have last : n % 10 < 10 := Nat.mod_lt n (by decide)
    obtain ⟨digits, numeral, -, le⟩ := ih (n := n / 10) (by omega)
    have longer := numeral.snoc last (sign (n % 10) last)
    rw [Nat.div_add_mod'] at longer
    exact ⟨_, longer, by simp, by simpa using le⟩

/-- Every character can be written as an entity with its code point in decimal. -/
lemma exists_standsFor (c : Char) : ∃ inside, StandsFor inside c := by
  -- Code points end below 1114112, which has seven digits.
  have lt : c.toNat < 10 ^ 7 := by
    have valid : c.toNat.isValidChar := c.valid
    unfold Nat.isValidChar at valid
    omega
  obtain ⟨digits, numeral, ne, le⟩ := exists_numeral 6 lt
  exact ⟨_, .decimal numeral ne le⟩

/-- Every text can be written, and a page shows the text that was written. -/
theorem plainText_escaped (text : List Char) :
    (∃ written, Escaped written text) ∧
      ∀ written, Escaped written text →
        plainText (String.ofList written) = String.ofList (collapse text) := by
  constructor
  · induction text with
    | nil => exact ⟨[], .nil⟩
    | cons c text ih =>
      obtain ⟨written, escaped⟩ := ih
      obtain ⟨inside, stands⟩ := exists_standsFor c
      exact ⟨_, .entity stands escaped⟩
  · intro written escaped
    have strip : stripTags written = written := by
      rw [stripTags, hiddenBlock_startsWith.replaceAll_eq escaped.not_mem,
        tag_startsWith.replaceAll_eq escaped.not_mem]
    rw [plainText, String.toList_ofList, plainChars, strip, decoded_iff.mp escaped.decoded]

/-- What looks like an entity or a tag once it is read is not read again. -/
example : plainText "&amp;lt; &#60;b> &#x26;#0038;" = "&lt; <b> &#0038;" := by
  decide +kernel

end Markup
end PageSearch
