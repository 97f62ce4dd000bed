import PageSearch.Markup.Pattern

/-!
# Entities

A character may be written as an entity: one of six names, a decimal number of up to seven digits,
or a hexadecimal number of up to six, between `&` and `;`. A number has to be that of a character,
and surrogates are none. Whatever else stands between `&` and `;` is left as it is.
-/

namespace PageSearch.Markup

/-- The value of a digit in a base up to sixteen. -/
def digitValue? (base : Nat) (c : Char) : Option Nat :=
  let value :=
    if c.isDigit then c.toNat - '0'.toNat
    else if 'a' ≤ c ∧ c ≤ 'f' then c.toNat - 'a'.toNat + 10
    else if 'A' ≤ c ∧ c ≤ 'F' then c.toNat - 'A'.toNat + 10
    else base
  if value < base then some value else none

/-- The value of a numeral, from the value of the digits before it. -/
def numeralFrom? (base value : Nat) : List Char → Option Nat
  | [] => some value
  | c :: rest => do numeralFrom? base (value * base + (← digitValue? base c)) rest

/-- The value of a numeral of at least one and at most `most` digits. -/
def numeral? (base most : Nat) (digits : List Char) : Option Nat :=
  if digits.isEmpty || most < digits.length then none else numeralFrom? base 0 digits

/-- The character with a code point. -/
def scalar? (n : Nat) : Option Char :=
  if n.isValidChar then some (Char.ofNat n) else none

/-- The characters that have a name. -/
def namedCharacter? (name : List Char) : Option Char :=
  if name = "amp".toList then some '&'
  else if name = "lt".toList then some '<'
  else if name = "gt".toList then some '>'
  else if name = "quot".toList then some '"'
  else if name = "apos".toList then some '\''
  else if name = "nbsp".toList then some ' '
  else none

/-- The character that an entity stands for, given what is between `&` and `;`. -/
def entityCharacter? : List Char → Option Char
  | '#' :: 'x' :: digits => (numeral? 16 6 digits).bind scalar?
  | '#' :: 'X' :: digits => (numeral? 16 6 digits).bind scalar?
  | '#' :: digits => (numeral? 10 7 digits).bind scalar?
  | name => namedCharacter? name

/-- An entity, replaced by its character. -/
def entity : Pattern := fun s => do
  let inside ← dropLead ['&'] s
  let after ← dropThrough ';' inside
  let c ← entityCharacter? (inside.takeWhile (· ≠ ';'))
  return ([c], after)

end PageSearch.Markup
