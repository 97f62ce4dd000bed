import PageSearch.Number.Decimal

/-!
# TOML values

A table and an array remember how they were written, because that decides whether later lines of
the document may add to them.
-/

namespace PageSearch.Toml

/-- How a table came about. -/
inductive TableForm where
  /-- In braces, complete as it stands. -/
  | inline
  /-- By a header of its own, or as the document itself. -/
  | header
  /-- On the way to another table, in a header. -/
  | implied
  /-- On the way to a key with dots. -/
  | dotted
  deriving DecidableEq

/-- How an array came about. -/
inductive ArrayForm where
  /-- In brackets, complete as it stands. -/
  | inline
  /-- By headers in double brackets. -/
  | tables
  deriving DecidableEq

inductive Value where
  | string (s : String)
  | integer (n : Int)
  /-- What has the form of a whole number but no value, such as the mark of a base without digits.
  It is at fault only where a number is looked for. -/
  | valueless
  | decimal (d : Decimal)
  | infinity (negative : Bool)
  | nan
  | bool (b : Bool)
  /-- A date, a time, or both, as it is written. -/
  | moment (text : String)
  | array (form : ArrayForm) (items : List Value)
  | table (form : TableForm) (entries : List (String × Value))

/-- The keys of a table with their values. -/
abbrev Entries := List (String × Value)

end PageSearch.Toml
