import PageSearch.Config.Basic
import PageSearch.Navigation.BaseUrl
import PageSearch.Report
import PageSearch.Suggest.Session

/-!
# Commands

A command is carried out on an adapter and gives the text to print. `search` lists the best matches
of a query, `suggest` prints the dropdown for it, `visit` selects one of the suggestions and prints
where that leads, `lookup` prints a page, and `check` the numbers of the site.
-/

namespace PageSearch

inductive Command where
  | search (query : String) (limit : Nat)
  | suggest (query : String)
  | visit (query : String) (pick : Nat)
  | lookup (url : String)
  | check
  deriving DecidableEq

/-- Why a command has nothing to print. -/
inductive CommandError where
  | zeroLimit
  | superseded
  | noSuggestion (pick : Nat) (query : String)
  | noPage (url : String)
  | failed (cause : SearchError)
  deriving DecidableEq

/-- The text of the error, where its wording is fixed. -/
def CommandError.message? : CommandError → Option String
  | .zeroLimit => some "Result limit must be at least 1"
  | .superseded => some "Suggestion was superseded"
  | .noSuggestion pick query =>
    some ("No suggestion at position " ++ Nat.repr pick ++ " for '" ++ query ++ "'")
  | .noPage url => some ("No page stored under '" ++ url ++ "'")
  | .failed cause => cause.message?

namespace Command

/-- How many titles are shown that a query without matches may have meant. -/
def mostHints : Nat := 3

/-- Asks an adapter for suggestions. -/
def ask (query : String) : StateM Adapter Response :=
  fun a => a.respond query

/-- Lists the matches of a query. -/
def runSearch (query : String) (limit : Nat) : StateM Adapter (Except CommandError String) := do
  if limit = 0 then return .error .zeroLimit
  else
    let a ← get
    let (result, a) := a.search query
    set a
    match result with
    | .error e => return .error (.failed e)
    | .ok found =>
      let found := found.take limit
      let near := if found.isEmpty then a.didYouMean query mostHints else []
      return .ok (Report.ofMatches query found near)

/-- Prints the dropdown for a query. -/
def runSuggest (c : Config) (query : String) : StateM Adapter (Except CommandError String) := do
  let (result, _) ← Session.query ask (Session.new c.settings) query
  match result with
  | .error e => return .error (.failed e)
  | .ok none => return .error .superseded
  | .ok (some d) => return .ok (Report.ofDropdown d c.settings.display)

/-- Selects the suggestion with a number, counted from one, and prints its target. -/
def runVisit (c : Config) (query : String) (pick : Nat) :
    StateM Adapter (Except CommandError String) := do
  let printer : TargetPrinter Page Empty := .new c.baseUrl ⟨""⟩
  let (result, t) ← Typeahead.input ask (Typeahead.new c.settings printer) query
  match result with
  | .error e => return .error (.failed e)
  | .ok _ =>
    match pick with
    | 0 => return .error (.noSuggestion pick query)
    | position + 1 =>
      match t.select position with
      | (false, _) => return .error (.noSuggestion pick query)
      | (true, t) =>
        match t.navigator.finish with
        | .ok page => return .ok page.text
        | .error e => nomatch e

/-- Prints the page with a url. -/
def runLookup (a : Adapter) (url : String) : Except CommandError String :=
  match a.lookup url with
  | some r => .ok (Report.ofRecord r)
  | none => .error (.noPage url)

/-- Carries out a command. -/
def run (c : Config) : Command → StateM Adapter (Except CommandError String)
  | .search query limit => runSearch query limit
  | .suggest query => runSuggest c query
  | .visit query pick => runVisit c query pick
  | .lookup url => fun a => (runLookup a url, a)
  | .check => fun a => (.ok (Report.ofSite a.store a.index), a)

end Command

end PageSearch
