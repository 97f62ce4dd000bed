/-!
# TOML strings

A string stands between quotes, or between apostrophes if it is to be taken literally. Between
tripled quotes or apostrophes it may run over several lines; a line end right after the opening ones
is dropped, and up to two more in front of the closing ones belong to the string. Control characters
are refused but for the tab.
-/

namespace PageSearch.Toml

/-- What is read from the start of a text, and the text after it. -/
abbrev Reader (α : Type) := List Char → Option (α × List Char)

/-- Whether a character may stand in a string or a comment. -/
def isPlain (c : Char) : Bool :=
  c == '\t' || (0x20 ≤ c.toNat && c.toNat != 0x7f)

def isSpace (c : Char) : Bool :=
  c == ' ' || c == '\t'

/-- The text after a line end. -/
def lineEnd? : List Char → Option (List Char)
  | '\n' :: rest => some rest
  | '\r' :: '\n' :: rest => some rest
  | _ => none

def hexValue? (c : Char) : Option Nat :=
  if c.isDigit then some (c.toNat - '0'.toNat)
  else if 'a' ≤ c ∧ c ≤ 'f' then some (c.toNat - 'a'.toNat + 10)
  else if 'A' ≤ c ∧ c ≤ 'F' then some (c.toNat - 'A'.toNat + 10)
  else none

/-- The character with a code written in so many hexadecimal digits. -/
def codePoint? (width : Nat) (s : List Char) : Option Char := do
  let digits ← (s.take width).mapM hexValue?
  let code := digits.foldl (fun n d => n * 16 + d) 0
  if digits.length = width ∧ (code < 0xd800 ∨ (0xdfff < code ∧ code < 0x110000)) then
    return Char.ofNat code
  else none

/-- What an escape stands for, and how many characters it takes after the backslash. -/
def escape? : List Char → Option (Char × Nat)
  | 'b' :: _ => some ('\x08', 1)
  | 't' :: _ => some ('\t', 1)
  | 'n' :: _ => some ('\n', 1)
  | 'f' :: _ => some ('\x0c', 1)
  | 'r' :: _ => some ('\r', 1)
  | 'e' :: _ => some ('\x1b', 1)
  | '"' :: _ => some ('"', 1)
  | '\\' :: _ => some ('\\', 1)
  | 'x' :: s => (codePoint? 2 s).map (·, 3)
  | 'u' :: s => (codePoint? 4 s).map (·, 5)
  | 'U' :: s => (codePoint? 8 s).map (·, 9)
  | _ => none

/-- The text after blanks and line ends. -/
def skipBreaks : List Char → List Char
  | '\r' :: '\n' :: rest => skipBreaks rest
  | '\n' :: rest => skipBreaks rest
  | c :: rest => if isSpace c then skipBreaks rest else c :: rest
  | [] => []

/-- The text after a backslash at the end of a line: blanks and line ends are skipped. -/
def continued? (s : List Char) : Option (List Char) :=
  (lineEnd? (s.dropWhile isSpace)).map skipBreaks

/-- Adds a character in front of what is read next. -/
def consed (c : Char) (next : Option (List Char × List Char)) : Option (List Char × List Char) :=
  next.map fun (body, rest) => (c :: body, rest)

/-- The rest of a quoted string on one line. -/
def quotedBody? : Reader (List Char)
  | [] => none
  | c :: s =>
    if c = '"' then some ([], s)
    else if c = '\\' then
      match escape? s with
      | some (e, taken) => consed e (quotedBody? (s.drop taken))
      | none => none
    else if isPlain c then consed c (quotedBody? s)
    else none
termination_by s => s.length
decreasing_by
  all_goals
    simp only [List.length_drop, List.length_cons]
    omega

/-- The rest of a literal string on one line. -/
def literalBody? : Reader (List Char)
  | [] => none
  | c :: s =>
    if c = '\'' then some ([], s)
    else if isPlain c then consed c (literalBody? s)
    else none

/-- The end of a string between tripled quotes, with those in front of the closing ones. -/
def tripled? (quote : Char) (s : List Char) : Option (List Char × List Char) :=
  let run := (s.takeWhile (· == quote)).length
  if run < 3 then none
  else some (List.replicate (min (run - 3) 2) quote, s.drop (3 + min (run - 3) 2))

/-- The rest of a quoted string over several lines. -/
def quotedLines? : Reader (List Char)
  | [] => none
  | c :: s =>
    match tripled? '"' (c :: s) with
    | some found => some found
    | none =>
      if c = '\\' then
        match continued? s with
        | some rest => if rest.length ≤ s.length then quotedLines? rest else none
        | none =>
          match escape? s with
          | some (e, taken) => consed e (quotedLines? (s.drop taken))
          | none => none
      else if isPlain c || c == '\n' || (c == '\r' && s.head? == some '\n') then
        consed c (quotedLines? s)
      else none
termination_by s => s.length
decreasing_by all_goals simp <;> omega

/-- The rest of a literal string over several lines. -/
def literalLines? : Reader (List Char)
  | [] => none
  | c :: s =>
    match tripled? '\'' (c :: s) with
    | some found => some found
    | none =>
      if isPlain c || c == '\n' || (c == '\r' && s.head? == some '\n') then
        consed c (literalLines? s)
      else none

/-- The text after a line end, or the text itself. -/
def dropLineEnd (s : List Char) : List Char :=
  (lineEnd? s).getD s

/-- A string on one line. -/
def lineString? : Reader String := fun s =>
  let body :=
    match s with
    | '"' :: s => quotedBody? s
    | '\'' :: s => literalBody? s
    | _ => none
  body.map fun (body, rest) => (String.ofList body, rest)

/-- A string. -/
def string? : Reader String := fun s =>
  match s with
  | '"' :: '"' :: '"' :: rest =>
    (quotedLines? (dropLineEnd rest)).map fun (body, rest) => (String.ofList body, rest)
  | '\'' :: '\'' :: '\'' :: rest =>
    (literalLines? (dropLineEnd rest)).map fun (body, rest) => (String.ofList body, rest)
  | _ => lineString? s

end PageSearch.Toml
