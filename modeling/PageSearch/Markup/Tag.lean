import PageSearch.Markup.Pattern

/-!
# Tags and comments

A comment runs from `<!--` to the nearest `-->` after it. Any other `<` starts a tag, which runs to
the nearest `>`; so does a comment that is never closed.
-/

namespace PageSearch.Markup

/-- The text after a comment. -/
def dropComment (s : List Char) : Option (List Char) := do
  let body ← dropLead ['<', '!', '-', '-'] s
  dropThroughFirst (dropLead ['-', '-', '>']) body

/-- The text after a tag. -/
def dropTag (s : List Char) : Option (List Char) := do
  let body ← dropLead ['<'] s
  dropThrough '>' body

/-- A comment or a tag, replaced by a space. -/
def tag : Pattern := fun s =>
  ((dropComment s).or (dropTag s)).map ([' '], ·)

end PageSearch.Markup
