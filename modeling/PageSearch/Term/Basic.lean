import PageSearch.Term.Stem
import PageSearch.Term.Word

/-!
# Terms

A term is what an index files a page under: the stem of a form of a word, in small letters. Common
English words are stop words and are left out of the terms of a text, unless they are kept on
purpose: titles keep them, and so does a query that has nothing else.
-/

namespace PageSearch

namespace Term

open Text

/-- Words too common to tell pages apart. -/
def stopWords : List String := [
  "a", "an", "and", "are", "as", "at", "be", "but", "by", "for", "from", "has", "he", "if", "in",
  "into", "is", "it", "its", "of", "on", "or", "that", "the", "their", "then", "there", "these",
  "they", "this", "to", "was", "will", "with"]

def isStopWord (word : List Char) : Bool :=
  stopWords.contains (String.ofList word)

/-- Whether stop words count as terms. -/
inductive Mode where
  | dropStopWords
  | keepStopWords
  deriving DecidableEq

/-- The term for a form of a word, if it has one. -/
def ofForm? (mode : Mode) (form : List Char) : Option (List Char) :=
  let small := lowercase form
  if mode = .dropStopWords && isStopWord small then none
  else if (stem small).isEmpty then none
  else some (stem small)

/-- The terms of a text, in order and with repetitions. -/
def ofText (mode : Mode) (text : List Char) : List (List Char) :=
  ((wordsOf text).flatMap forms).filterMap (ofForm? mode)

end Term

end PageSearch
