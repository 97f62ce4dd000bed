import PageSearch.Suggest.Dropdown

/-!
# Responses

A provider answers a query by giving lists of suggestions, any number of times, each of which
replaces the one before, and then ends: well, or with an error that voids what it gave.
-/

namespace PageSearch

/-- What a provider does with a query. -/
structure Response where
  given : List (List Suggestion)
  ending : Except SearchError Unit

namespace Response

/-- What a response comes to: the last list that was given, none if there was no list. -/
def outcome (r : Response) : Except SearchError (List Suggestion) :=
  r.ending.map fun _ => r.given.getLast?.getD []

end Response

/-- An adapter as a provider: it gives its matches once, or fails. -/
def Adapter.respond (a : Adapter) (query : String) : Response × Adapter :=
  match a.search query with
  | (.ok found, a) => (⟨[found.map Suggestion.ofMatch], .ok ()⟩, a)
  | (.error e, a) => (⟨[], .error e⟩, a)

end PageSearch
