import PageSearch.Config.Basic
import PageSearch.Toml.Reader

/-!
# Configurations as TOML

Every key of a configuration is optional. At the top other keys than the known ones are refused; in
the groups `index`, `typeahead` and `query` they are ignored, as long as their numbers have values
and are in range. A group may also be an array of its values in order, of which the last ones may be
left out and any further ones are not looked at, and a date in its place leaves all its values out.
-/

namespace PageSearch

open Toml (Value Entries)

namespace Config

/-- Whether a whole number fits 128 bits, with or without a sign. -/
def inRange (n : Int) : Bool :=
  -(1 <<< 127 : Nat) ≤ n && n < (1 <<< 128 : Nat)

mutual

/-- Whether all numbers of a value that is ignored have values and are in range. -/
def ignorable : Value → Bool
  | .integer n => inRange n
  | .valueless => false
  | .decimal d => d.single?.isSome
  | .array _ items => ignorableItems items
  | .table _ entries => ignorableEntries entries
  | .string _ | .infinity _ | .nan | .bool _ | .moment _ => true

def ignorableItems : List Value → Bool
  | [] => true
  | v :: rest => ignorable v && ignorableItems rest

def ignorableEntries : List (String × Value) → Bool
  | [] => true
  | (_, v) :: rest => ignorable v && ignorableEntries rest

end

def text? : Value → Option String
  | .string s => some s
  | _ => none

/-- A number of 64 bits without a sign. -/
def size? : Value → Option Nat
  | .integer n => if 0 ≤ n ∧ n < (1 <<< 64 : Nat) then some n.toNat else none
  | _ => none

/-- A weight; a whole number counts if it fits 64 bits. -/
def weight? : Value → Option Single
  | .decimal d => d.single?
  | .infinity negative => some (if negative then Single.negInfinity else Single.infinity)
  | .nan => some ⟨0x7fc00000⟩
  | .integer n =>
    if 0 ≤ n ∧ n < (1 <<< 64 : Nat) then some (Single.ofNat n.toNat)
    else if -(1 <<< 63 : Nat) ≤ n ∧ n < 0 then some (Single.ofNat (-n).toNat).neg
    else none
  | _ => none

/-- The name of a choice: a string, or the only key of a table with nothing under it. -/
def choice? : Value → Option String
  | .string s => some s
  | .table _ [(name, .table _ [])] => some name
  | .table _ [(name, .array _ [])] => some name
  | _ => none

def display? (v : Value) : Option Display :=
  match choice? v with
  | some "title" => some .title
  | some "url" => some .url
  | _ => none

def policy? (v : Value) : Option DanglingPolicy :=
  match choice? v with
  | some "skip" => some .skip
  | some "fail" => some .fail
  | _ => none

/-- The values of a group by the names of its keys. -/
def group? (names : List String) : Value → Option (String → Option Value)
  | .table _ entries =>
    if ignorableEntries (entries.filter fun e => !names.contains e.1) then
      some fun name => entries.lookup name
    else none
  | .array _ items => some fun name => (names.idxOf? name).bind (items[·]?)
  | .moment _ => some fun _ => none
  | _ => none

/-- The value of a key, or what it is if the key is left out. -/
def valueOr {α : Type} (absent : α) (read? : Value → Option α) : Option Value → Option α
  | none => some absent
  | some v => read? v

/-- A value that may be left out. -/
def optional? {α : Type} (read? : Value → Option α) : Option Value → Option (Option α)
  | none => some none
  | some v => (read? v).map some

def boosts? (v : Value) : Option Boosts := do
  let at? ← group? ["title_boost", "content_boost"] v
  return ⟨← valueOr Boosts.default.title weight? (at? "title_boost"),
    ← valueOr Boosts.default.content weight? (at? "content_boost")⟩

def settings? (v : Value) : Option Settings := do
  let at? ← group? ["min_length", "limit", "display"] v
  return ⟨← valueOr Settings.default.minLength size? (at? "min_length"),
    ← valueOr Settings.default.limit size? (at? "limit"),
    ← valueOr Settings.default.display display? (at? "display")⟩

def query? (v : Value) : Option (DanglingPolicy × Nat) := do
  let at? ← group? ["on_dangling", "cache_size"] v
  return (← valueOr default.policy policy? (at? "on_dangling"),
    ← valueOr default.capacity size? (at? "cache_size"))

/-- The keys at the top of a configuration. -/
def topKeys : List String :=
  ["documents", "base_url", "cache_dir", "index", "typeahead", "query"]

/-- The configuration that a document describes. -/
def ofEntries? (entries : Entries) : Option Config := do
  if entries.any fun e => !topKeys.contains e.1 then none
  else
    let (policy, capacity) ←
      valueOr (default.policy, default.capacity) query? (entries.lookup "query")
    return {
      documents := ← optional? text? (entries.lookup "documents")
      baseUrl := ← optional? text? (entries.lookup "base_url")
      cacheFolder := ← optional? text? (entries.lookup "cache_dir")
      boosts := ← valueOr .default boosts? (entries.lookup "index")
      settings := ← valueOr .default settings? (entries.lookup "typeahead")
      policy
      capacity }

/-- The configuration that a text describes, its values checked. -/
def ofToml (text : String) : Except ConfigError Config :=
  match (Toml.document? text).bind ofEntries? with
  | none => .error .malformed
  | some c =>
    match c.fault? with
    | some fault => .error fault
    | none => .ok c

end Config

/-- Why a configuration file gives no configuration. -/
inductive ConfigFileError where
  /-- It cannot be read, or is no text. -/
  | unreadable (path : String)
  | rejected (path : String) (cause : ConfigError)
  deriving DecidableEq

def ConfigFileError.message : ConfigFileError → String
  | .unreadable path => "Failed to read configuration at " ++ path
  | .rejected path _ => "Failed to load configuration from " ++ path

namespace Config

/-- The configuration of a file, given its contents if it can be read. Paths in it are relative to
the folder of the file. -/
def ofFile (path : String) (contents : Option ByteArray) : Except ConfigFileError Config :=
  match contents.bind String.fromUTF8? with
  | none => .error (.unreadable path)
  | some text =>
    match ofToml text with
    | .ok c => .ok (c.relativeTo (Path.folder path))
    | .error cause => .error (.rejected path cause)

end Config

end PageSearch
