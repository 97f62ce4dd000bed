import PageSearch.Json.Reader
import PageSearch.Store.Basic

/-!
# Document files

A document file holds the records of a site as JSON: an array of records, or an object with such an
array under `documents`. A record is an object with a `title`, a `url` and optionally a `content`,
each a string and given once, or an array of title, content and url. Other members are ignored.

A file that is no JSON text is told apart from a JSON text of another shape, and a value of another
shape counts before anything that may follow it.
-/

namespace PageSearch

/-- Why a document file gives no store. -/
inductive LoadError where
  | unreadable
  | malformed
  | wrongShape
  | invalid (fault : StoreError)
  deriving DecidableEq

/-- The text of the error, where its wording is fixed. -/
def LoadError.message? : LoadError → Option String
  | .unreadable | .malformed => none
  | .wrongShape => some "data did not match any variant of untagged enum StoreFile"
  | .invalid fault => some fault.message

namespace Store

open Json (Value)

/-- How deep arrays and objects may be nested in a document file. -/
def fileDepth : Nat := 127

/-- The values of the members with a name. -/
def membersNamed (name : String) (members : List (String × Value)) : List Value :=
  (members.filter (·.1 == name)).map (·.2)

/-- The string that a member which must be given once holds. -/
def stringMember? (name : String) (members : List (String × Value)) : Option String :=
  match membersNamed name members with
  | [.string s] => some s
  | _ => none

/-- The string that a member holds, empty if the member is left out. -/
def optionalMember? (name : String) (members : List (String × Value)) : Option String :=
  match membersNamed name members with
  | [] => some ""
  | [.string s] => some s
  | _ => none

/-- The record that a value describes. -/
def record? : Value → Option Record
  | .object members => do
    let title ← stringMember? "title" members
    let content ← optionalMember? "content" members
    let url ← stringMember? "url" members
    return ⟨title, content, url⟩
  | .array [.string title, .string content, .string url] => some ⟨title, content, url⟩
  | _ => none

/-- The records that an array describes. -/
def recordArray? : Value → Option (List Record)
  | .array items => items.mapM record?
  | _ => none

/-- The records that the value of a document file describes. -/
def fileRecords? : Value → Option (List Record)
  | .object members =>
    match membersNamed "documents" members with
    | [v] => recordArray? v
    | _ => none
  | v => recordArray? v

/-- The characters of a file. From the first byte on that is no part of a character the file counts
as one control character, which no JSON text has. -/
def fileChars (bytes : ByteArray) : List Char :=
  match String.fromUTF8? bytes with
  | some s => s.toList
  | none =>
    let sizes := (List.range bytes.size).reverse
    let valid := sizes.findSome? fun n => String.fromUTF8? (bytes.extract 0 n)
    (valid.getD "").toList ++ ['\x00']

/-- The records of a document file with these characters. -/
def readRecords (text : List Char) : Except LoadError (List Record) :=
  match Json.value? fileDepth text with
  | none => .error .malformed
  | some (v, rest) =>
    match fileRecords? v with
    | none => .error .wrongShape
    | some records => if (Json.skipSpace rest).isEmpty then .ok records else .error .malformed

/-- The store of a document file, given its bytes if it can be read. -/
def load (file : Option ByteArray) : Except LoadError Store :=
  match file with
  | none => .error .unreadable
  | some bytes => do
    let records ← readRecords (fileChars bytes)
    (ofRecords records).mapError .invalid

end Store

end PageSearch
