import PageSearch.Proofs.Markup.HiddenBlock

/-!
# Hidden elements in a page

The body of a script or a style sheet is no text of a page, whatever is in it but a closing tag. Its
own closing tag ends it as it should. But so does that of the other hidden element, and then the
rest of the body is shown.
-/

namespace PageSearch
namespace Markup

open Text

variable {name attributes body s : List Char}

/-- An element whose name, attributes and body are these. -/
def elementOf (name attributes body : List Char) : List Char :=
  '<' :: (name ++ attributes ++ ['>']) ++ body ++ '<' :: '/' :: (name ++ ['>'])

/-- A closing tag of an element starts in a text, whatever comes after the name. -/
def StartsClosing (name text : List Char) : Prop :=
  ∃ start, Spelled name start ∧ '<' :: '/' :: start <:+: text

/-- To start a closing tag is a matter of what the tails of the text begin with. -/
lemma startsClosing_iff :
    StartsClosing name s ↔
      ∃ tail ∈ s.tails, ((dropLead ['<', '/'] tail).bind (dropName name)).isSome = true := by
  simp only [Option.isSome_iff_exists, Option.bind_eq_some_iff, dropLead_eq_some_iff,
    dropName_eq_some_iff, List.mem_tails]
  constructor
  · rintro ⟨start, same, before, after, rfl⟩
    exact ⟨'<' :: '/' :: start ++ after, ⟨before, by simp⟩, after, start ++ after, rfl, start, rfl,
      same⟩
  · rintro ⟨_, ⟨before, rfl⟩, after, _, rfl, start, rfl, same⟩
    exact ⟨start, same, before, after, by simp⟩

instance : Decidable (StartsClosing name s) :=
  decidable_of_iff _ startsClosing_iff.symm

/-- A text that closes an element starts a closing tag of it. -/
lemma Closes.startsClosing (closes : Closes name s) : StartsClosing name s := by
  obtain ⟨_, @⟨start, blanks, same, -⟩, within⟩ := closes
  have starts : '<' :: '/' :: start <+: '<' :: '/' :: (start ++ blanks ++ ['>']) :=
    ⟨blanks ++ ['>'], by simp⟩
  exact ⟨start, same, starts.isInfix.trans within⟩

/-- What a page shows of a hidden element. -/
structure Hides (name attributes body : List Char) : Prop where
  /-- Nothing, if no hidden element is closed in its body. -/
  whole : ClosesNone body → ∀ before after, '<' ∉ before →
    plainText (String.ofList (before ++ elementOf name attributes body ++ after)) =
      plainText (String.ofList (before ++ ' ' :: after))
  /-- Otherwise all that comes after the first place where one is. -/
  leaking : ∀ inner other tag rest, body = inner ++ tag ++ rest → ClosesNone inner →
    other ∈ hiddenNames → ClosingTag other tag → ∀ before after, '<' ∉ before →
      plainText (String.ofList (before ++ elementOf name attributes body ++ after)) =
        plainText (String.ofList
          (before ++ ' ' :: (rest ++ '<' :: '/' :: (name ++ ['>']) ++ after)))
  /-- There is no third case. -/
  covered : ClosesNone body ∨
    ∃ inner, ∃ other ∈ hiddenNames, ∃ tag rest, body = inner ++ tag ++ rest ∧ ClosesNone inner ∧
      ClosingTag other tag
  /-- In a body in which its own closing tag starts nowhere, only another element is closed. -/
  other : ¬ StartsClosing name body → ¬ Closes name body

/-- The body of a hidden element is no text of a page as far as the first closing tag of a hidden
element, which may be of another one than the element itself. -/
theorem hides_element (hidden : name ∈ hiddenNames) (noEnd : '>' ∉ attributes)
    (apart : ∀ c ∈ attributes.head?, isBlank c = true) : Hides name attributes body := by
  have opening : OpeningTag name ('<' :: (name ++ attributes ++ ['>'])) :=
    .intro (spelled_self name) (fun c mem => isWordChar_of_isBlank (apart c mem)) noEnd
  have closing : ClosingTag name ('<' :: '/' :: (name ++ ['>'])) := by
    simpa using ClosingTag.intro (spelled_self name) (by simp : ∀ c ∈ [], isBlank c = true)
  constructor
  case whole =>
    intro none before after noTag
    have element := HiddenElement.intro hidden opening none hidden closing
    exact element.plainText_append noTag after
  case leaking =>
    intro inner other tag rest eq none hidden' closes before after noTag
    have element := HiddenElement.intro hidden opening none hidden' closes
    -- What is hidden is the element up to the first closing tag, whichever that is.
    have shorter := element.plainText_append noTag (rest ++ '<' :: '/' :: (name ++ ['>']) ++ after)
    rw [← shorter, elementOf, eq]
    simp
  case covered => exact closesNone_or_exists body
  case other => exact fun absent closes => absent closes.startsClosing

example : plainText "<script>let tag = '</style>'; run();</script>shown" = "'; run(); shown" := by
  decide +kernel

/-- So for a style sheet with attributes and with another tag in it. -/
theorem hides_element_style :
    let attributes := " media=print".toList
    let body := "@import '</p> -->'; a > b".toList
    "style".toList ∈ hiddenNames ∧ '>' ∉ attributes ∧
      (∀ c ∈ attributes.head?, isBlank c = true) ∧ Hides "style".toList attributes body := by
  intro attributes body
  have hidden : "style".toList ∈ hiddenNames := by decide
  have noEnd : '>' ∉ attributes := by decide
  have apart : ∀ c ∈ attributes.head?, isBlank c = true := by
    rintro c ⟨⟩
    decide
  exact ⟨hidden, noEnd, apart, hides_element hidden noEnd apart⟩

/-- The body of a script is not hidden when it has the closing tag of a style sheet in it. -/
theorem not_hidden_of_other_closing :
    ¬ ∀ name ∈ hiddenNames, ∀ attributes body before after : List Char,
      '<' ∉ attributes → '>' ∉ attributes → (∀ c ∈ attributes.head?, isBlank c = true) →
      ¬ StartsClosing name body → '<' ∉ before →
      plainText (String.ofList (before ++ elementOf name attributes body ++ after)) =
        plainText (String.ofList (before ++ ' ' :: after)) := by
  intro hidden
  have same := hidden "script".toList (by decide) [] "let tag = '</style>'; run();".toList []
    "shown".toList (by decide) (by decide) (by simp) (by decide +kernel) (by decide)
  exact absurd same (by decide +kernel)

end Markup
end PageSearch
