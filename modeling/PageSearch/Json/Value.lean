/-!
# JSON values
-/

namespace PageSearch.Json

/-- A JSON value. A number is kept as it is written, and an object keeps its members in order, also
those that share a name. -/
inductive Value where
  | null
  | bool (b : Bool)
  | number (literal : List Char)
  | string (s : String)
  | array (items : List Value)
  | object (members : List (String × Value))

end PageSearch.Json
