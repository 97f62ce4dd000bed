import PageSearch.Text.Blank

/-!
# Paths

A path is a text of names with slashes between them. A relative path is taken relative to a folder
by joining the two; an absolute path stands for itself. Empty names and single dots lead nowhere.
-/

namespace PageSearch.Path

/-- The names without those at the end that lead nowhere. -/
def dropIdle (names : List (List Char)) : List (List Char) :=
  (names.reverse.dropWhile fun name => name.isEmpty || name == ['.']).reverse

/-- What leads to the last name of a path that goes on from `start`, empty if there is no name. -/
def leadTo (start path : List Char) : List Char :=
  match dropIdle (Text.pieces (· == '/') path) with
  | [] => []
  | names => start ++ ['/'].intercalate (dropIdle names.dropLast)

/-- The folder that a path lies in, empty for a single name. A dot in front of the path stays, and
so does what leads nowhere between two names. -/
def folder (path : String) : String :=
  String.ofList
    (match path.toList with
    | '/' :: rest => leadTo ['/'] rest
    | '.' :: '/' :: rest => leadTo ['.', '/'] rest
    | rest => leadTo [] rest)

/-- A path taken relative to a folder. -/
def join (folder path : String) : String :=
  if path.toList.head? = some '/' ∨ folder = "" then path
  else if folder.toList.getLast? = some '/' then folder ++ path
  else folder ++ "/" ++ path

end PageSearch.Path
