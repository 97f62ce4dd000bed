/-!
# Records

A record is one page of the site. Its url is its key and what a selection navigates to.
-/

namespace PageSearch

/-- A page: its title, its body as markup, and its url. -/
structure Record where
  title : String
  content : String
  url : String
  deriving DecidableEq

end PageSearch
