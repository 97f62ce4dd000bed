import PageSearch.Text.Span

/-!
# Blanks

Blanks are the characters with the property White_Space. A text is trimmed of blanks at its ends,
or taken apart into the words that blanks separate and put together again with single spaces.
-/

namespace PageSearch.Text

/-- The property White_Space. -/
def blankSpans : List Span := [
  ⟨0x9, 0xd, 1⟩, ⟨0x20, 0x20, 1⟩, ⟨0x85, 0x85, 1⟩, ⟨0xa0, 0xa0, 1⟩, ⟨0x1680, 0x1680, 1⟩,
  ⟨0x2000, 0x200a, 1⟩, ⟨0x2028, 0x2029, 1⟩, ⟨0x202f, 0x202f, 1⟩, ⟨0x205f, 0x205f, 1⟩,
  ⟨0x3000, 0x3000, 1⟩]

def isBlank (c : Char) : Bool :=
  Span.holdsChar blankSpans c

def trimStart (s : List Char) : List Char :=
  s.dropWhile isBlank

def trimEnd (s : List Char) : List Char :=
  (s.reverse.dropWhile isBlank).reverse

/-- The text without the blanks at its ends. -/
def trim (s : List Char) : List Char :=
  trimEnd (trimStart s)

/-- Cuts a text at every character that satisfies `p` and drops those characters. Pieces may be
empty, and there is always one more piece than there are cuts. -/
def pieces (p : Char → Bool) : List Char → List (List Char)
  | [] => [[]]
  | c :: rest =>
    if p c then [] :: pieces p rest
    else
      match pieces p rest with
      | [] => [[c]]
      | piece :: others => (c :: piece) :: others

/-- The pieces of a text between characters that satisfy `p`, without the empty ones. -/
def runs (p : Char → Bool) (s : List Char) : List (List Char) :=
  (pieces p s).filter (!·.isEmpty)

/-- The words of a text, separated by blanks. -/
def words (s : List Char) : List (List Char) :=
  runs isBlank s

/-- The words of a text with one space between them. -/
def collapse (s : List Char) : List Char :=
  [' '].intercalate (words s)

end PageSearch.Text
