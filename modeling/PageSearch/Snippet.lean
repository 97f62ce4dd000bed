import PageSearch.Text.Blank

/-!
# Snippets

A snippet is the beginning of a text. A text that fits is its own snippet. A longer one is cut to
the most characters allowed, then before the last space in them unless that is their first
character, loses the blanks at its end, and is marked with an ellipsis.
-/

namespace PageSearch

open Text

/-- The part of a text before its last space, empty if it has none. -/
def beforeLastSpace (s : List Char) : List Char :=
  ((s.reverse.dropWhile (· ≠ ' ')).drop 1).reverse

/-- What a snippet keeps of a text that is too long. -/
def snippetHead (text : List Char) (most : Nat) : List Char :=
  let cut := text.take most
  trimEnd (if (beforeLastSpace cut).isEmpty then cut else beforeLastSpace cut)

/-- The beginning of a text, in at most that many characters and an ellipsis. -/
def snippet (text : String) (most : Nat) : String :=
  if text.toList.length ≤ most then text
  else String.ofList (snippetHead text.toList most ++ ['…'])

end PageSearch
