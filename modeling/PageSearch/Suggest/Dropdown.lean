import PageSearch.Adapter.Basic

/-!
# Dropdowns

A dropdown shows the first few suggestions for what has been typed, each by its title or its url.
-/

namespace PageSearch

/-- A page that is suggested. -/
structure Suggestion where
  title : String
  url : String
  score : Single
  deriving DecidableEq

/-- The suggestion of a record that a query found. -/
def Suggestion.ofMatch (m : Match) : Suggestion :=
  ⟨m.record.title, m.record.url, m.score⟩

/-- What a suggestion is shown by. -/
inductive Display where
  | title
  | url
  deriving DecidableEq

/-- When suggestions are asked for, how many are shown, and by what. -/
structure Settings where
  minLength : Nat
  limit : Nat
  display : Display
  deriving DecidableEq

/-- Up to three suggestions, by title, for whatever is not blank. -/
def Settings.default : Settings :=
  ⟨1, 3, .title⟩

/-- Whether a query, without the blanks around it, is too short to ask for suggestions. -/
def Settings.tooShort (s : Settings) (query : List Char) : Bool :=
  query.length < s.minLength

/-- What a dropdown shows. -/
inductive Dropdown where
  /-- It is closed: the query is too short, its answer failed, or a suggestion was selected. -/
  | hidden
  /-- It is open and says that nothing was found. -/
  | noMatches
  /-- It is open and shows suggestions. -/
  | suggestions (shown : List Suggestion)
  deriving DecidableEq

namespace Dropdown

/-- The dropdown for results, of which it shows the first ones up to the limit. -/
def ofResults (results : List Suggestion) (limit : Nat) : Dropdown :=
  if results.isEmpty then .noMatches else .suggestions (results.take limit)

/-- The suggestions that are shown. -/
def shown : Dropdown → List Suggestion
  | suggestions shown => shown
  | hidden | noMatches => []

/-- The label of a suggestion. -/
def label (display : Display) (s : Suggestion) : String :=
  match display with
  | .title => s.title
  | .url => s.url

/-- The labels that are shown. -/
def labels (d : Dropdown) (display : Display) : List String :=
  d.shown.map (label display)

end Dropdown

end PageSearch
