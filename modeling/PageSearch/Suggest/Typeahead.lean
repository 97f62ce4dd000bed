import PageSearch.Navigation.Basic
import PageSearch.Suggest.Response
import PageSearch.Text.Blank

/-!
# Typeahead

A typeahead follows what is typed into one field. On every input it asks the provider, unless the
query is too short without the blanks around it, and shows the dropdown for the response. Selecting
a suggestion that is shown and has a url hands the url to the navigator and closes the dropdown;
any other selection does nothing.

The provider is asked in a monad of the caller's choice, which may count or record the questions.
-/

namespace PageSearch

/-- The query that a typed text stands for: the text without the blanks at its ends. -/
def trimmed (typed : String) : String :=
  String.ofList (Text.trim typed.toList)

/-- The state of a field with suggestions. -/
structure Typeahead (N : Type) where
  settings : Settings
  navigator : N
  dropdown : Dropdown

namespace Typeahead

variable {N : Type}

def new (settings : Settings) (navigator : N) : Typeahead N :=
  ⟨settings, navigator, .hidden⟩

/-- Takes in the response to a query. An error closes the dropdown. -/
def receive (t : Typeahead N) (r : Response) : Except SearchError Dropdown × Typeahead N :=
  match r.outcome with
  | .ok results =>
    let dropdown := Dropdown.ofResults results t.settings.limit
    (.ok dropdown, { t with dropdown })
  | .error e => (.error e, { t with dropdown := .hidden })

/-- Handles a change of what is typed, and gives the new dropdown or the provider's error. -/
def input {m : Type → Type} [Monad m] (ask : String → m Response) (t : Typeahead N)
    (typed : String) : m (Except SearchError Dropdown × Typeahead N) := do
  let query := trimmed typed
  if t.settings.tooShort query.toList then
    return (.ok .hidden, { t with dropdown := .hidden })
  else
    return t.receive (← ask query)

/-- Selects the suggestion at a position counted from zero, and tells whether that led anywhere. -/
def select [Navigator N] (t : Typeahead N) (position : Nat) : Bool × Typeahead N :=
  match PageSearch.select t.navigator (t.dropdown.shown[position]?.map (·.url)) with
  | (true, navigator) => (true, { t with navigator, dropdown := .hidden })
  | (false, navigator) => (false, { t with navigator })

/-- The labels that are shown. -/
def labels (t : Typeahead N) : List String :=
  t.dropdown.labels t.settings.display

end Typeahead

end PageSearch
