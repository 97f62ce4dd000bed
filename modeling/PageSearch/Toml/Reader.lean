import PageSearch.Toml.Quoted
import PageSearch.Toml.Scalar
import PageSearch.Toml.Table

/-!
# Reading TOML

A document is a list of statements, one to a line: headers, and keys with values. Arrays and inline
tables may run over several lines, with comments and a comma after the last item, and are nested at
most eighty deep.
-/

namespace PageSearch.Toml

/-- How deep arrays and inline tables may be nested. -/
def mostNested : Nat := 80

/-- The most parts that a key may have. -/
def mostParts : Nat := 80

/-- The text after a comment, up to the line end. -/
def comment? (s : List Char) : Option (List Char) :=
  let body := s.takeWhile fun c => c != '\n' && c != '\r'
  if body.all isPlain then some (s.drop body.length) else none

/-- The text after blanks, line ends and comments. -/
def skipLines? (s : List Char) : Option (List Char) :=
  match s with
  | [] => some []
  | c :: rest =>
    if isSpace c then skipLines? rest
    else if c = '#' then
      match comment? rest with
      | some after => if after.length ≤ rest.length then skipLines? after else none
      | none => none
    else
      match lineEnd? (c :: rest) with
      | some after => if after.length ≤ rest.length then skipLines? after else none
      | none => some (c :: rest)
termination_by s.length
decreasing_by all_goals simp <;> omega

/-- The text after the end of a statement: blanks, a comment, and the line end or the end of the
document. -/
def statementEnd? (s : List Char) : Option (List Char) := do
  let s := s.dropWhile isSpace
  let s ←
    match s with
    | '#' :: rest => comment? rest
    | _ => some s
  if s.isEmpty then return [] else lineEnd? s

def isKeyChar (c : Char) : Bool :=
  c.isAlphanum || c == '_' || c == '-'

/-- One part of a key. -/
def keyPart? : Reader String := fun s =>
  let bare := s.takeWhile isKeyChar
  if bare.isEmpty then lineString? s
  else some (String.ofList bare, s.drop bare.length)

/-- At most `fuel` parts of a key, with dots between them. -/
def keyParts? : Nat → Reader (List String)
  | 0, _ => none
  | fuel + 1, s => do
    let (part, rest) ← keyPart? s
    match rest.dropWhile isSpace with
    | '.' :: after =>
      let (parts, rest) ← keyParts? fuel (after.dropWhile isSpace)
      return (part :: parts, rest)
    | _ => return ([part], rest)

/-- A key: the path that leads to it, and its last part. -/
def key? : Reader (List String × String) := fun s => do
  let (parts, rest) ← keyParts? mostParts s
  return ((parts.dropLast, parts.getLast?.getD ""), rest)

/-- The characters that end a value without quotes. -/
def bareEnds : List Char :=
  "=,[]\x7b\x7d \t#\r\n".toList

/-- The text of a value without quotes. A date may be followed by a space and a time. -/
def bareText (s : List Char) : List Char :=
  let word := fun s : List Char => s.takeWhile fun c => !bareEnds.contains c
  let first := word s
  match s.drop first.length with
  | ' ' :: rest =>
    if date? first == some [] && (rest.head?.any Char.isDigit) then first ++ ' ' :: word rest
    else first
  | _ => first

/-- Items up to the closing sign, with commas between them and maybe after the last. -/
def items? {α : Type} (close : Char) (item : Reader α) : Nat → Reader (List α)
  | 0, _ => none
  | fuel + 1, s => do
    let s ← skipLines? s
    match mark? close s with
    | some rest => return ([], rest)
    | none =>
      let (x, s) ← item s
      let s ← skipLines? s
      match mark? close s with
      | some rest => return ([x], rest)
      | none =>
        let s ← mark? ',' s
        let (xs, rest) ← items? close item fuel s
        return (x :: xs, rest)

/-- A key and its value in an inline table, where line ends may stand around the sign between. -/
def inlinePair? (value : Reader Value) : Reader Pair := fun s => do
  let ((path, key), s) ← key? s
  let s ← skipLines? s
  let s ← mark? '=' s
  let s ← skipLines? s
  let (v, rest) ← value s
  return (⟨path, key, v⟩, rest)

/-- A value in which arrays and inline tables are nested up to the given depth. -/
def value? : Nat → Reader Value
  | depth, s =>
    match s with
    | [] => none
    | c :: rest =>
      if c = '"' ∨ c = '\'' then (string? s).map fun (t, rest) => (.string t, rest)
      else if c = '[' then
        match depth with
        | 0 => none
        | depth + 1 =>
          (items? ']' (value? depth) s.length rest).map fun (vs, rest) => (.array .inline vs, rest)
      else if c = '{' then
        match depth with
        | 0 => none
        | depth + 1 => do
          let (pairs, rest) ← items? '}' (inlinePair? (value? depth)) s.length rest
          let entries ← pairs.foldlM addPair []
          return (.table .inline entries, rest)
      else do
        let bare := bareText s
        return (← scalar? bare, s.drop bare.length)

/-- A header, up to its last bracket. -/
def header? : Reader Header := fun s => do
  let (ofArray, s) :=
    match s with
    | '[' :: '[' :: s => (true, s)
    | _ => (false, s.drop 1)
  let ((path, key), s) ← key? (s.dropWhile isSpace)
  let s ← mark? ']' (s.dropWhile isSpace)
  let s ← if ofArray then mark? ']' s else some s
  return (⟨ofArray, path, key⟩, s)

/-- A key and its value, on one line up to the value. -/
def pair? : Reader Pair := fun s => do
  let ((path, key), s) ← key? s
  let s ← mark? '=' (s.dropWhile isSpace)
  let (v, rest) ← value? mostNested (s.dropWhile isSpace)
  return (⟨path, key, v⟩, rest)

/-- What a line of a document says. -/
inductive Statement where
  | header (h : Header)
  | pair (p : Pair)

/-- A statement. -/
def statement? : Reader Statement := fun s =>
  if s.head? = some '[' then (header? s).map fun (h, rest) => (.header h, rest)
  else (pair? s).map fun (p, rest) => (.pair p, rest)

/-- At most `fuel` statements, up to the end of the document. -/
def statements? : Nat → List Char → Option (List Statement)
  | 0, _ => none
  | fuel + 1, s => do
    let s ← skipLines? s
    if s.isEmpty then return []
    else
      let (statement, s) ← statement? s
      let s ← statementEnd? s
      return statement :: (← statements? fuel s)

/-- The pairs up to the next header, and the statements from there on. -/
def leadingPairs : List Statement → List Pair × List Statement
  | .pair p :: rest => (p :: (leadingPairs rest).1, (leadingPairs rest).2)
  | statements => ([], statements)

/-- Adds the headers of a document, each with the pairs below it. Pairs before the first header
belong to the document itself. -/
def addSections : List Statement → Entries → Option Entries
  | [], entries => some entries
  | .pair _ :: rest, entries => addSections rest entries
  | .header h :: rest, entries => do
    addSections rest (← addSection entries h (leadingPairs rest).1)

/-- The keys and values of a document, which may begin with a mark for the order of bytes. -/
def document? (text : String) : Option Entries := do
  let s :=
    match text.toList with
    | '\ufeff' :: s => s
    | s => s
  let statements ← statements? (s.length + 1) s
  addSections statements (← (leadingPairs statements).1.foldlM addPair [])

end PageSearch.Toml
