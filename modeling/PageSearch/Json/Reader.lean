import PageSearch.Json.Number
import PageSearch.Json.String
import PageSearch.Json.Value

/-!
# Reading JSON

A value is read from the start of a text, together with the text after it. Blanks may stand before
and after every value, name and sign. Arrays and objects may be nested up to a depth that the caller
sets; objects may repeat a name.
-/

namespace PageSearch.Json

def isSpace (c : Char) : Bool :=
  c == ' ' || c == '\n' || c == '\t' || c == '\r'

def skipSpace (s : List Char) : List Char :=
  s.dropWhile isSpace

/-- What a reader finds at the start of a text, and the text after it. -/
abbrev Reader (α : Type) := List Char → Option (α × List Char)

/-- The text after a sign, which blanks may precede. -/
def sign? (c : Char) (s : List Char) : Option (List Char) :=
  match skipSpace s with
  | [] => none
  | d :: rest => if d = c then some rest else none

/-- At most `fuel` items with commas between them, up to the closing sign. -/
def itemsThen? {α : Type} (close : Char) (item : Reader α) : Nat → Reader (List α)
  | 0, _ => none
  | fuel + 1, s => do
    let (x, rest) ← item s
    match sign? close rest with
    | some rest => return ([x], rest)
    | none =>
      let rest ← sign? ',' rest
      let (xs, rest) ← itemsThen? close item fuel rest
      return (x :: xs, rest)

/-- Items with commas between them, up to the closing sign; there may be none. -/
def items? {α : Type} (close : Char) (item : Reader α) : Reader (List α) := fun s =>
  match sign? close s with
  | some rest => some ([], rest)
  | none => itemsThen? close item s.length s

/-- A member of an object. -/
def member? (value : Reader Value) : Reader (String × Value) := fun s => do
  let rest ← sign? '"' s
  let (name, rest) ← stringBody? rest
  let rest ← sign? ':' rest
  let (v, rest) ← value rest
  return ((name, v), rest)

/-- A value that is a number. -/
def number? : Reader Value := fun s => do
  let (l, rest) ← literal? s
  if l.inRange then return (.number (s.take (s.length - rest.length)), rest) else none

/-- A value written as one word. -/
def word? (word : List Char) (v : Value) : Reader Value := fun s =>
  if word.isPrefixOf s then some (v, s.drop word.length) else none

/-- A value in which arrays and objects are nested up to the given depth. -/
def value? : Nat → Reader Value
  | depth, s =>
    match skipSpace s with
    | [] => none
    | c :: rest =>
      if c = '"' then (stringBody? rest).map fun (s, rest) => (.string s, rest)
      else if c = '[' then
        match depth with
        | 0 => none
        | depth + 1 => (items? ']' (value? depth) rest).map fun (vs, rest) => (.array vs, rest)
      else if c = '{' then
        match depth with
        | 0 => none
        | depth + 1 =>
          (items? '}' (member? (value? depth)) rest).map fun (ms, rest) => (.object ms, rest)
      else if c = 't' then word? "true".toList (.bool true) (c :: rest)
      else if c = 'f' then word? "false".toList (.bool false) (c :: rest)
      else if c = 'n' then word? "null".toList .null (c :: rest)
      else number? (c :: rest)

end PageSearch.Json
