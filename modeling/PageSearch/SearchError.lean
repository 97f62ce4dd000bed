/-!
# Failures of a search
-/

namespace PageSearch

/-- Why a query has no answer. -/
inductive SearchError where
  /-- The index ranked a url that no record has. -/
  | danglingReference (reference : String)
  /-- The computation of suggestions in the background broke down. -/
  | taskFailed
  /-- The computation itself broke down, as on an index that ranks a document it does not hold. -/
  | brokenDown
  deriving DecidableEq

/-- The text of the error, where its wording does not depend on the breakdown. -/
def SearchError.message? : SearchError → Option String
  | .danglingReference reference =>
    some s!"Index references '{reference}' but no such document is loaded"
  | .taskFailed | .brokenDown => none

end PageSearch
