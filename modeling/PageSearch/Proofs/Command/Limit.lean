import PageSearch.Proofs.Adapter.Reconfigured
import PageSearch.Proofs.Adapter.Titles
import PageSearch.Proofs.Command.FrontEnds
import PageSearch.Proofs.Text.Runs

/-!
# What the limit of a search does

A search with a limit lists the first of the matches, each as it is listed without one: its number,
its percentage of the best score and the beginning of its page do not depend on how many are listed.
Hints are given if there is no match at all. Whatever else an adapter has been used for in between,
it has one answer to a query whenever it has any.
-/

namespace PageSearch

namespace Text

end Text

namespace Report

variable {query : String} {found : List Match} {near : List Record}

/-- The lines for each of some matches, with their percentages of a best score. -/
def entries (best : Single) (found : List Match) : List String :=
  (numbered found).map fun (m, rank) => matchLines best m rank

end Report

namespace Adapter

variable {a b : Adapter} {query : String} {found found' : List Match}

/-- An answer that is given is the one by which dangling hits are skipped. -/
lemma Lenient.resolve_of_search (h : a.Lenient) (ok : (a.search query).1 = .ok found) :
    ((a.withPolicy .skip).resolve query).map a.matchesOf = .ok found := by
  rw [(h.search query).1] at ok
  split at ok
  · exact ok
  · cases resolved : a.resolve query with
    | ok answer => rwa [resolve_skip_of_ok resolved, ← resolved]
    | error e =>
      rw [resolved] at ok
      cases ok

end Adapter

namespace Command

variable {c : Config} {a b : Adapter} {query : String} {found : List Match}

/-- What is printed for the matches of a query with a limit. -/
def listing (a : Adapter) (query : String) (found : List Match) (limit : Nat) : String :=
  Report.ofMatches query (found.take limit)
    (if (found.take limit).isEmpty then a.didYouMean query mostHints else [])

end Command
end PageSearch
