import PageSearch.Markup.Pattern
import PageSearch.Text.Blank
import PageSearch.Text.Letter

/-!
# Hidden blocks

A `script` or `style` element with everything in it, from its opening tag to the nearest closing
tag of either kind. Letter case does not matter, a long s counting as an s. An element's name ends
where no word character follows, and a closing tag may have blanks before its end. An element that
is never closed is no hidden block.
-/

namespace PageSearch.Markup

open Text

/-- The elements whose bodies are not text. -/
def hiddenNames : List (List Char) :=
  ["script".toList, "style".toList]

/-- Whether a character stands for a small letter from a to z when case does not matter. -/
def foldsTo (letter c : Char) : Bool :=
  c == letter || c.toLower == letter || (letter == 's' && c == 'ſ')

/-- The text after a name in any letter case. -/
def dropName : List Char → List Char → Option (List Char)
  | [], s => some s
  | _ :: _, [] => none
  | l :: name, c :: s => if foldsTo l c then dropName name s else none

/-- The text after one of the hidden names. -/
def dropHiddenName (s : List Char) : Option (List Char) :=
  hiddenNames.findSome? (dropName · s)

/-- No word character comes first. -/
def atWordEnd : List Char → Bool
  | [] => true
  | c :: _ => !isWordChar c

/-- The text after the opening tag of a hidden block. -/
def dropOpening (s : List Char) : Option (List Char) := do
  let name ← dropLead ['<'] s
  let attributes ← dropHiddenName name
  if atWordEnd attributes then dropThrough '>' attributes else none

/-- The text after the closing tag of a hidden block. -/
def dropClosing (s : List Char) : Option (List Char) := do
  let name ← dropLead ['<', '/'] s
  let rest ← dropHiddenName name
  dropLead ['>'] (trimStart rest)

/-- A hidden block, replaced by a space. -/
def hiddenBlock : Pattern := fun s => do
  let body ← dropOpening s
  let after ← dropThroughFirst dropClosing body
  return ([' '], after)

end PageSearch.Markup
