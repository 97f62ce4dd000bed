import PageSearch.Adapter.Basic
import PageSearch.Markup.PlainText
import PageSearch.Relevance
import PageSearch.Snippet
import PageSearch.Suggest.Dropdown

/-!
# Reports

What the commands print: the matches of a query, a dropdown, a page, and the numbers of a site.
Lists are numbered from one, and every line of a report ends with a line end.
-/

namespace PageSearch

namespace Report

/-- How many characters of a page are shown under a match. -/
def snippetLength : Nat := 100

/-- Items with their numbers, counted from one. -/
def numbered {α : Type} (items : List α) : List (α × Nat) :=
  items.zipIdx 1

/-- The line for a title that a query may have meant. -/
def hint (r : Record) : String :=
  "• " ++ r.title ++ " (" ++ r.url ++ ")\n"

/-- What is said of a query without matches. -/
def noMatches (query : String) (near : List Record) : String :=
  "No results found for '" ++ query ++ "'.\n" ++
    (if near.isEmpty then "" else "\nDid you mean:\n" ++ String.join (near.map hint))

/-- The lines for one match: its rank, its page and its relevance, the beginning of the page unless
it has no text, and an empty line. -/
def matchLines (best : Single) (m : Match) (rank : Nat) : String :=
  let text := plainText m.record.content
  Nat.repr rank ++ ". " ++ m.record.title ++ " (" ++ m.record.url ++ ") - relevance: " ++
    Nat.repr (relevancePercent m.score best) ++ "%\n" ++
    (if text = "" then "" else "   " ++ snippet text snippetLength ++ "\n") ++ "\n"

/-- The matches of a query, best first, or what it may have meant. -/
def ofMatches (query : String) (found : List Match) (near : List Record) : String :=
  match found with
  | [] => noMatches query near
  | best :: _ =>
    "Search results for '" ++ query ++ "':\n\n" ++
      String.join ((numbered found).map fun (m, rank) => matchLines best.score m rank)

/-- A dropdown, one label to a line. -/
def ofDropdown (d : Dropdown) (display : Display) : String :=
  match d with
  | .hidden => ""
  | .noMatches => "No matches\n"
  | .suggestions _ =>
    String.join ((numbered (d.labels display)).map fun (label, n) =>
      Nat.repr n ++ ". " ++ label ++ "\n")

/-- A page in full. -/
def ofRecord (r : Record) : String :=
  r.title ++ "\n" ++ r.url ++ "\n\n" ++ plainText r.content ++ "\n"

/-- The numbers of a store and an index. -/
def ofSite (store : Store) (index : Index) : String :=
  let untitled := store.findAll fun r => (Text.trim r.title.toList).isEmpty
  let empty := store.findAll fun r => plainText r.content == ""
  "Documents:        " ++ Nat.repr store.size ++ "\n" ++
    "Indexed:          " ++ Nat.repr index.documentCount ++ "\n" ++
    "Unique terms:     " ++ Nat.repr index.termCount ++ "\n" ++
    "Untitled pages:   " ++ Nat.repr untitled.length ++ "\n" ++
    "Pages w/o text:   " ++ Nat.repr empty.length ++ "\n"

end Report

end PageSearch
