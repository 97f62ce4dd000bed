import PageSearch.Text.Blank
import PageSearch.Toml.Value

/-!
# TOML values without quotes

Numbers, truth values, dates and times are written without quotes. Digits may be grouped by single
underscores between them, and a whole number has no needless zero in front. After a sign an
underscore may come first, and then zeros are not needless. A date exists in the calendar; a time
may lack its seconds, and may have an offset only after a date.

What has the form of a whole number is told from its first group of digits and from the characters
around its underscores. If other characters stand elsewhere, or the mark of a base has no digits
after it, it is a whole number without a value.
-/

namespace PageSearch.Toml

open Text (pieces)

/-- Digits with single underscores between them, taken together. -/
def grouped? (isDigit : Char → Bool) (s : List Char) : Option (List Char) :=
  let groups := pieces (· == '_') s
  if groups.all fun g => !g.isEmpty && g.all isDigit then some groups.flatten else none

/-- The value of a digit, up to `f`. -/
def digitValue (c : Char) : Nat :=
  if c.isDigit then c.toNat - '0'.toNat
  else if 'a' ≤ c then c.toNat - 'a'.toNat + 10
  else c.toNat - 'A'.toNat + 10

/-- The number with these digits. -/
def numberOf (base : Nat) (digits : List Char) : Nat :=
  digits.foldl (fun n c => n * base + digitValue c) 0

/-- A whole number in a base other than ten, after the mark of the base. -/
def based? (base : Nat) (isDigit : Char → Bool) (s : List Char) : Option Value :=
  if s.isEmpty then some .valueless
  else (grouped? isDigit s).map fun digits => .integer (numberOf base digits)

def isHexDigit (c : Char) : Bool :=
  c.isDigit || ('a' ≤ c && c ≤ 'f') || ('A' ≤ c && c ≤ 'F')

/-- A sign, if there is one, and what follows it. -/
def signed (s : List Char) : Option Char × List Char :=
  match s with
  | '+' :: s => (some '+', s)
  | '-' :: s => (some '-', s)
  | _ => (none, s)

/-- What stands before the first character that satisfies `p`, and what stands after it. -/
def cutAt (p : Char → Bool) (s : List Char) : List Char × Option (List Char) :=
  match s.dropWhile (!p ·) with
  | [] => (s, none)
  | _ :: after => (s.takeWhile (!p ·), some after)

/-- A whole number in base ten after its sign: digits, or groups that underscores separate. The
first group is of digits, and around an underscore stand characters that are digits in some base. -/
def whole? (sign : Option Char) (s : List Char) : Option Value :=
  match pieces (· == '_') s with
  | [] => none
  | first :: others =>
    if first.all Char.isDigit && (!first.isEmpty || (sign.isSome && !others.isEmpty)) &&
        (first.head? != some '0' || s == ['0']) &&
        others.all (fun g => g.head?.any isHexDigit) &&
        others.dropLast.all (fun g => g.getLast?.any isHexDigit) then
      let digits := first ++ others.flatten
      if digits.all Char.isDigit then
        let n : Int := numberOf 10 digits
        some (.integer (if sign = some '-' then -n else n))
      else some .valueless
    else none

/-- The whole digits of a number with a fraction or an exponent, after its sign. -/
def wholeDigits? (sign : Option Char) (s : List Char) : Option (List Char) :=
  match sign, s with
  | some _, '_' :: s => grouped? Char.isDigit s
  | _, s => do
    let digits ← grouped? Char.isDigit s
    if digits.length = 1 ∨ digits.head? ≠ some '0' then return digits else none

/-- The exponent of a number. -/
def exponent? (s : List Char) : Option Int := do
  let (sign, s) := signed s
  let digits ← grouped? Char.isDigit s
  return if sign = some '-' then -(numberOf 10 digits : Int) else numberOf 10 digits

/-- A number in base ten after its sign. -/
def number? (sign : Option Char) (s : List Char) : Option Value :=
  let (mantissa, exponent) := cutAt (fun c => c == 'e' || c == 'E') s
  let (whole, fraction) := cutAt (· == '.') mantissa
  match fraction, exponent with
  | none, none => whole? sign s
  | _, _ => do
    let whole ← wholeDigits? sign whole
    let fraction ← (fraction.map (grouped? Char.isDigit)).getD (some [])
    let exponent ← (exponent.map exponent?).getD (some 0)
    return .decimal ⟨sign == some '-', numberOf 10 (whole ++ fraction), exponent - fraction.length⟩

/-- The number that so many digits write, and the text after them. -/
def fixedDigits? (width : Nat) (s : List Char) : Option (Nat × List Char) :=
  let digits := s.take width
  if digits.length = width ∧ digits.all Char.isDigit then
    some (numberOf 10 digits, s.drop width)
  else none

def isLeapYear (year : Nat) : Bool :=
  year % 4 == 0 && (year % 100 != 0 || year % 400 == 0)

def daysIn (year month : Nat) : Nat :=
  if month = 2 then (if isLeapYear year then 29 else 28)
  else if [4, 6, 9, 11].contains month then 30
  else 31

/-- The text after a sign. -/
def mark? (c : Char) : List Char → Option (List Char)
  | [] => none
  | d :: rest => if d = c then some rest else none

/-- The text after a date. -/
def date? (s : List Char) : Option (List Char) := do
  let (year, s) ← fixedDigits? 4 s
  let s ← mark? '-' s
  let (month, s) ← fixedDigits? 2 s
  let s ← mark? '-' s
  let (day, s) ← fixedDigits? 2 s
  if 1 ≤ month ∧ month ≤ 12 ∧ 1 ≤ day ∧ day ≤ daysIn year month then return s else none

/-- The text after the seconds of a time, which may have a fraction. -/
def seconds? (s : List Char) : Option (List Char) := do
  let (second, s) ← fixedDigits? 2 s
  if 60 < second then none
  else
    match s with
    | '.' :: s =>
      if (s.takeWhile Char.isDigit).isEmpty then none else return s.dropWhile Char.isDigit
    | _ => return s

/-- The text after hours and minutes. -/
def hourMinute? (s : List Char) : Option (List Char) := do
  let (hour, s) ← fixedDigits? 2 s
  let s ← mark? ':' s
  let (minute, s) ← fixedDigits? 2 s
  if hour ≤ 23 ∧ minute ≤ 59 then return s else none

/-- The text after a time of the day. -/
def time? (s : List Char) : Option (List Char) := do
  let s ← hourMinute? s
  match s with
  | ':' :: s => seconds? s
  | _ => return s

/-- Whether a text is an offset, or nothing. -/
def isOffset (s : List Char) : Bool :=
  match s with
  | [] => true
  | 'Z' :: rest | 'z' :: rest => rest.isEmpty
  | '+' :: rest | '-' :: rest => hourMinute? rest == some []
  | _ => false

/-- Whether a text is a date, a time, or both. -/
def isMoment (s : List Char) : Bool :=
  match date? s with
  | some [] => true
  | some (separator :: s) =>
    (separator == 'T' || separator == 't' || separator == ' ') && (time? s).any isOffset
  | none => time? s == some []

/-- The value that a text without quotes stands for. -/
def scalar? (s : List Char) : Option Value :=
  match s with
  | ['t', 'r', 'u', 'e'] => some (.bool true)
  | ['f', 'a', 'l', 's', 'e'] => some (.bool false)
  | '0' :: 'x' :: s => based? 16 isHexDigit s
  | '0' :: 'o' :: s => based? 8 (fun c => '0' ≤ c && c ≤ '7') s
  | '0' :: 'b' :: s => based? 2 (fun c => c == '0' || c == '1') s
  | _ =>
    if isMoment s then some (.moment (String.ofList s))
    else
      match signed s with
      | (sign, ['i', 'n', 'f']) => some (.infinity (sign == some '-'))
      | (_, ['n', 'a', 'n']) => some .nan
      | (sign, s) => number? sign s

end PageSearch.Toml
