import PageSearch.Text.Blank
import PageSearch.Text.Case

/-!
# Similarity of titles

The Jaro similarity of two texts counts the characters that they share at nearly the same place: a
character of one text takes the first free equal character of the other that is less than half the
longer text away. Shared characters that come in a different order count half as a loss. Winkler's
addition raises a similarity above 0.7 for each of up to four characters that both texts start with.
-/

namespace PageSearch

namespace Similarity

open Text

/-- Takes the first free `c` of a text starting at place `i` that lies between `low` and `high`. -/
def take? (c : Char) (low high i : Nat) : List (Char × Bool) → Option (List (Char × Bool))
  | [] => none
  | (d, taken) :: rest =>
    if !taken && d == c && low ≤ i && i ≤ high then some ((d, true) :: rest)
    else (take? c low high (i + 1) rest).map ((d, taken) :: ·)

/-- The characters of `t`, from place `j` on, that take one of `s`, and `s` after that. -/
def shared (reach j : Nat) (s : List (Char × Bool)) : List Char → List Char × List (Char × Bool)
  | [] => ([], s)
  | c :: t =>
    match take? c (j - reach) (j + reach) 0 s with
    | some s => ((shared reach (j + 1) s t).1.cons c, (shared reach (j + 1) s t).2)
    | none => shared reach (j + 1) s t

/-- The Jaro similarity of two texts, from 0 to 1. -/
def jaro (s t : List Char) : Float :=
  if s.isEmpty && t.isEmpty then 1
  else if s.isEmpty || t.isEmpty then 0
  else
    let (ofT, marked) := shared (max s.length t.length / 2 - 1) 0 (s.map (·, false)) t
    let ofS := (marked.filter (·.2)).map (·.1)
    if ofT.isEmpty then 0
    else
      let count := Float.ofNat ofT.length
      let moved := Float.ofNat (((ofS.zip ofT).filter fun (a, b) => a != b).length / 2)
      (count / Float.ofNat s.length + count / Float.ofNat t.length + (count - moved) / count) / 3

/-- The number of characters that two texts start with in common. -/
def commonLead : List Char → List Char → Nat
  | c :: s, d :: t => if c = d then commonLead s t + 1 else 0
  | _, _ => 0

/-- The Jaro similarity, raised for a common beginning. -/
def jaroWinkler (s t : List Char) : Float :=
  let similarity := jaro s t
  if 0.7 < similarity then
    similarity + Float.ofNat (min (commonLead s t) 4) * 0.1 * (1 - similarity)
  else similarity

end Similarity

/-- The similarity of a query to a title, from 0 to 1; letter case and blanks around the query do
not matter. -/
def titleSimilarity (query title : String) : Float :=
  Similarity.jaroWinkler (Text.lowercase (Text.trim query.toList)) (Text.lowercase title.toList)

/-- The similarity from which on a title counts as what a query may have meant. -/
def nearMissThreshold : Float := 0.8

end PageSearch
