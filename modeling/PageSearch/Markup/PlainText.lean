import PageSearch.Markup.Entity
import PageSearch.Markup.HiddenBlock
import PageSearch.Markup.Tag
import PageSearch.Text.Blank

/-!
# The text of a page

A page's markup becomes text in three passes and a last touch: hidden blocks go, then comments and
tags, then entities become their characters, and blanks collapse to single spaces. A tag leaves a
space behind, so that the words of two list items stay apart.
-/

namespace PageSearch.Markup

open Text

/-- The text of a page without its hidden blocks, comments and tags. -/
def stripTags (html : List Char) : List Char :=
  tag.replaceAll (hiddenBlock.replaceAll html)

/-- The text of a page. -/
def plainChars (html : List Char) : List Char :=
  collapse (entity.replaceAll (stripTags html))

end PageSearch.Markup

namespace PageSearch

/-- The text of a page: no markup, entities decoded, words separated by single spaces. -/
def plainText (html : String) : String :=
  String.ofList (Markup.plainChars html.toList)

end PageSearch
