/-!
# JSON numbers

A number is written as a sign, whole digits without a needless zero in front, and optionally a
fraction and an exponent. A number too large for a double is refused: the double nearest to its
leading digits, as far as they fit 64 bits, times the power of ten for the others, must be finite.
-/

namespace PageSearch.Json

/-- A number as it is written. -/
structure Literal where
  negative : Bool
  whole : List Char
  fraction : List Char
  exponentNegative : Bool
  exponent : List Char

def digits (s : List Char) : List Char × List Char :=
  (s.takeWhile Char.isDigit, s.dropWhile Char.isDigit)

/-- The number that digits write, from the number that the digits before them write. -/
def digitsValue (before : Nat) (ds : List Char) : Nat :=
  ds.foldl (fun n c => n * 10 + (c.toNat - '0'.toNat)) before

/-- The whole digits of a number: a zero alone, or digits of which the first is not zero. -/
def whole? (s : List Char) : Option (List Char × List Char) :=
  let (ds, rest) := digits s
  match ds with
  | [] => none
  | ['0'] => some (ds, rest)
  | '0' :: _ => none
  | _ => some (ds, rest)

/-- The fraction of a number, empty where there is no point. -/
def fraction? (s : List Char) : Option (List Char × List Char) :=
  match s with
  | '.' :: rest =>
    let (ds, rest) := digits rest
    if ds.isEmpty then none else some (ds, rest)
  | _ => some ([], s)

/-- The sign and the digits of an exponent, no digits where there is none. -/
def exponent? (s : List Char) : Option (Bool × List Char × List Char) :=
  match s with
  | e :: rest =>
    if e = 'e' ∨ e = 'E' then
      let (negative, rest) :=
        match rest with
        | '+' :: rest => (false, rest)
        | '-' :: rest => (true, rest)
        | _ => (false, rest)
      let (ds, rest) := digits rest
      if ds.isEmpty then none else some (negative, ds, rest)
    else some (false, [], s)
  | [] => some (false, [], s)

/-- The number at the start of a text, and the text after it. -/
def literal? (s : List Char) : Option (Literal × List Char) := do
  let (negative, s) :=
    match s with
    | '-' :: rest => (true, rest)
    | _ => (false, s)
  let (whole, s) ← whole? s
  let (fraction, s) ← fraction? s
  let (exponentNegative, exponent, s) ← exponent? s
  return (⟨negative, whole, fraction, exponentNegative, exponent⟩, s)

/-- The leading digits as far as they fit 64 bits, and how many are left. -/
def leading (value : Nat) : List Char → Nat × Nat
  | [] => (value, 0)
  | c :: rest =>
    if digitsValue value [c] < 1 <<< 64 then leading (digitsValue value [c]) rest
    else (value, rest.length + 1)

namespace Literal

/-- The leading digits, and the power of ten that they are to be multiplied by. -/
def scaled (l : Literal) : Nat × Int :=
  let (value, left) := leading 0 (l.whole ++ l.fraction)
  let power : Int := digitsValue 0 l.exponent
  (value, (left : Int) - l.fraction.length + (if l.exponentNegative then -power else power))

/-- Not too large for a double. -/
def inRange (l : Literal) : Bool :=
  let (value, power) := l.scaled
  if value = 0 || power < 0 then true
  else if 308 < power then false
  else (Float.ofNat value * Float.ofScientific 1 false power.toNat).isFinite

end Literal

end PageSearch.Json
