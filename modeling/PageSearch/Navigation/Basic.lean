/-!
# Navigation

A navigator receives the url of a suggestion that was selected. A selection without a url, or with
an empty one, leads nowhere.
-/

namespace PageSearch

/-- A type of states that a url can be visited in. -/
class Navigator (N : Type) where
  navigate : N → String → N

/-- Visits the url of a selection if it has one, and tells whether it has. -/
def select {N : Type} [Navigator N] (n : N) (url : Option String) : Bool × N :=
  match url with
  | some url => if url = "" then (false, n) else (true, Navigator.navigate n url)
  | none => (false, n)

/-- The urls that have been visited, oldest first. -/
structure Visits where
  urls : List String

instance : Navigator Visits where
  navigate v url := ⟨v.urls ++ [url]⟩

end PageSearch
