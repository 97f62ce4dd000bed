import PageSearch.Toml.Value

/-!
# Building tables

A document adds to its tables line by line, and no key is ever given a value twice. A key with dots
leads through tables that it creates, and through ones that other dotted keys created, but it does
not add to a table that a header stands for. A header leads through tables however they were
created, and through the last table of an array of tables; the table it names may be there already
only as one on the way to another. What is written in brackets or braces is never added to.
-/

namespace PageSearch.Toml

/-- Changes the value under a key, which may be absent. The change may be refused. -/
def changeEntry (key : String) (f : Option Value → Option Value) : Entries → Option Entries
  | [] => (f none).map fun v => [(key, v)]
  | (k, v) :: rest =>
    if k = key then (f (some v)).map fun v => (k, v) :: rest
    else (changeEntry key f rest).map fun rest => (k, v) :: rest

/-- Changes the table at the end of a path, creating tables of the given form on the way. -/
def changeTable (created : TableForm) (f : TableForm → Entries → Option Entries) :
    List String → TableForm → Entries → Option Entries
  | [], form, entries => f form entries
  | key :: path, _, entries =>
    changeEntry key (fun found =>
      match found with
      | none => (changeTable created f path created []).map (.table created)
      | some (.table form entries) =>
        if form = .inline ∨ (created = .dotted ∧ form = .header) then none
        else (changeTable created f path form entries).map (.table form)
      | some (.array .tables items) =>
        match items.getLast? with
        | some (.table form entries) =>
          (changeTable created f path form entries).map fun entries =>
            .array .tables (items.dropLast ++ [.table form entries])
        | _ => none
      | some _ => none) entries

/-- A key with the tables that lead to it, and its value. -/
structure Pair where
  path : List String
  key : String
  value : Value

/-- Adds a value under a key that must be new. -/
def addNew (key : String) (value : Value) (entries : Entries) : Option Entries :=
  changeEntry key (fun found => if found.isNone then some value else none) entries

/-- Adds a value under a key with dots. -/
def addPair (entries : Entries) (p : Pair) : Option Entries :=
  changeTable .dotted
    (fun form entries =>
      if !p.path.isEmpty && form != .dotted then none else addNew p.key p.value entries)
    p.path .header entries

/-- A header, and whether it is in double brackets. -/
structure Header where
  ofArray : Bool
  path : List String
  key : String

/-- What a header makes of the value under its key, given the pairs below the header. -/
def openTable (ofArray : Bool) (pairs : List Pair) (found : Option Value) : Option Value :=
  if ofArray then
    let item := (pairs.foldlM addPair []).map (Value.table .header)
    match found with
    | none => item.map fun item => .array .tables [item]
    | some (.array .tables items) => item.map fun item => .array .tables (items ++ [item])
    | some _ => none
  else
    match found with
    | none => (pairs.foldlM addPair []).map (.table .header)
    | some (.table .implied entries) => (pairs.foldlM addPair entries).map (.table .header)
    | some _ => none

/-- Adds a header with the pairs below it to a document. -/
def addSection (entries : Entries) (header : Header) (pairs : List Pair) : Option Entries :=
  changeTable .implied (fun _ => changeEntry header.key (openTable header.ofArray pairs))
    header.path .header entries

end PageSearch.Toml
