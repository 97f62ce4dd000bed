import PageSearch.Text.Blank
import PageSearch.Text.Case
import PageSearch.Text.Letter

/-!
# Words

A word is a longest run of letters, digits, `_` and `-`. Its parts are what `_` and `-` separate,
cut again before each capital that follows a small letter. A word with several parts stands for
each of them and for all of them joined, so that `type-ahead` and `TypeAhead` meet in `typeahead`.
-/

namespace PageSearch.Term

open Text

/-- The characters that separate parts inside a word. -/
def isJoiner (c : Char) : Bool :=
  c == '_' || c == '-'

def isWordPart (c : Char) : Bool :=
  isAlphanumeric c || isJoiner c

/-- Cuts before each capital letter that follows a small one. -/
def humps : List Char → List (List Char)
  | [] => [[]]
  | [c] => [[c]]
  | c :: d :: rest =>
    match humps (d :: rest) with
    | [] => [[c]]
    | hump :: others =>
      if isLowercase c && isUppercase d then [c] :: hump :: others else (c :: hump) :: others

/-- The parts of a word, none of them empty. -/
def parts (word : List Char) : List (List Char) :=
  ((pieces isJoiner word).flatMap humps).filter (!·.isEmpty)

/-- What a word is found by: its parts, and all of them joined if there are several. -/
def forms (word : List Char) : List (List Char) :=
  if 1 < (parts word).length then parts word ++ [(parts word).flatten] else parts word

/-- The words of a text, in order. -/
def wordsOf (text : List Char) : List (List Char) :=
  runs (!isWordPart ·) text

end PageSearch.Term
