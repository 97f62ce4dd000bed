/-!
# Classes of characters

A character class of the Unicode standard is a list of spans of code points in ascending order.
Where capital and small letters alternate, a span takes every second code point.
-/

namespace PageSearch.Text

/-- The code points from `first` to `last` in steps of `step`. -/
structure Span where
  first : Nat
  last : Nat
  step : Nat

/-- Whether the spans, which are in ascending order, hold the code point. -/
def Span.holds (n : Nat) : List Span → Bool
  | [] => false
  | s :: rest =>
    if n < s.first then false
    else if n ≤ s.last then (n - s.first) % s.step == 0
    else holds n rest

/-- Whether the spans, which are in ascending order, hold the character. -/
def Span.holdsChar (spans : List Span) (c : Char) : Bool :=
  Span.holds c.toNat spans

end PageSearch.Text
