import PageSearch.Number.Single

/-!
# Relevance

A score is shown as a percentage of the best score of a result.
-/

namespace PageSearch

/-- A score in percent of the best one, to the nearest whole number from 0 to 100, a half going up.
It is 0 where the best score is at most zero or the quotient is not a number. -/
def relevancePercent (score best : Single) : Nat :=
  if best.isNonpositive then 0
  else
    let percent := score / best * Single.hundred
    if !percent.isPositive then 0
    else if Single.hundred.rank ≤ percent.rank then 100
    else percent.roundToNat

end PageSearch
