/-!
# JSON strings

A string is written between quotes. A backslash makes the next character stand for something else,
and `\u` with four hexadecimal digits stands for a unit of UTF-16: a character by itself, or with
the unit after it half of one. Halves without their partner and control characters are refused.
-/

namespace PageSearch.Json

/-- A part of a string: a character, or a unit of UTF-16. -/
inductive Piece where
  | char (c : Char)
  | unit (n : Nat)

def hexDigit? (c : Char) : Option Nat :=
  if c.isDigit then some (c.toNat - '0'.toNat)
  else if 'a' ≤ c ∧ c ≤ 'f' then some (c.toNat - 'a'.toNat + 10)
  else if 'A' ≤ c ∧ c ≤ 'F' then some (c.toNat - 'A'.toNat + 10)
  else none

/-- The number that four hexadecimal digits write. -/
def hexUnit? (a b c d : Char) : Option Nat := do
  return (((← hexDigit? a) * 16 + (← hexDigit? b)) * 16 + (← hexDigit? c)) * 16 + (← hexDigit? d)

/-- The character that a backslash and this character stand for. -/
def escaped? : Char → Option Char
  | '"' => some '"'
  | '\\' => some '\\'
  | '/' => some '/'
  | 'b' => some '\x08'
  | 'f' => some '\x0c'
  | 'n' => some '\n'
  | 'r' => some '\r'
  | 't' => some '\t'
  | _ => none

def isControl (c : Char) : Bool :=
  c.toNat < 0x20

/-- The parts of a string after its opening quote, and the text after its closing quote. -/
def pieces? : List Char → Option (List Piece × List Char)
  | [] => none
  | c :: rest =>
    if c = '"' then some ([], rest)
    else if c = '\\' then
      match rest with
      | [] => none
      | e :: rest =>
        if e = 'u' then
          match rest with
          | w :: x :: y :: z :: rest => do
            let n ← hexUnit? w x y z
            let (pieces, rest) ← pieces? rest
            return (.unit n :: pieces, rest)
          | _ => none
        else do
          let d ← escaped? e
          let (pieces, rest) ← pieces? rest
          return (.char d :: pieces, rest)
    else if isControl c then none
    else do
      let (pieces, rest) ← pieces? rest
      return (.char c :: pieces, rest)

/-- The characters of a string from its parts. -/
def joinPieces? : List Piece → Option (List Char)
  | [] => some []
  | .char c :: rest => (joinPieces? rest).map (c :: ·)
  | .unit n :: rest =>
    if n < 0xd800 ∨ 0xdfff < n then (joinPieces? rest).map (Char.ofNat n :: ·)
    else
      match rest with
      | .unit m :: rest =>
        if n < 0xdc00 ∧ 0xdc00 ≤ m ∧ m ≤ 0xdfff then
          (joinPieces? rest).map (Char.ofNat (0x10000 + (n - 0xd800) * 0x400 + (m - 0xdc00)) :: ·)
        else none
      | _ => none

/-- A string after its opening quote, and the text after its closing quote. -/
def stringBody? (s : List Char) : Option (String × List Char) := do
  let (pieces, rest) ← pieces? s
  let chars ← joinPieces? pieces
  return (String.ofList chars, rest)

end PageSearch.Json
