/-!
# Bytes

Stored values are lists of bytes. A writer gives the bytes of a value. A reader takes a value from
the front of a list of bytes and gives the bytes after it.
-/

namespace PageSearch.Bytes

/-- What is read from the front of a list of bytes, and the bytes after it. -/
abbrev Reader (α : Type) := List UInt8 → Option (α × List UInt8)

/-- The bytes of a text. -/
def ofText (s : String) : List UInt8 :=
  s.toUTF8.data.toList

/-- The text with these bytes, if they are the bytes of one. -/
def text? (bytes : List UInt8) : Option String :=
  String.fromUTF8? ⟨bytes.toArray⟩

/-- A number as so many bytes, lowest first. -/
def littleEndian : Nat → Nat → List UInt8
  | 0, _ => []
  | width + 1, n => n.toUInt8 :: littleEndian width (n / 256)

/-- The number in so many bytes, lowest first. -/
def littleEndian? : Nat → Reader Nat
  | 0, bytes => some (0, bytes)
  | _ + 1, [] => none
  | width + 1, b :: bytes =>
    (littleEndian? width bytes).map fun (n, rest) => (b.toNat + 256 * n, rest)

/-- So many items, one after the other. -/
def items? {α : Type} (item? : Reader α) : Nat → Reader (List α)
  | 0, bytes => some ([], bytes)
  | count + 1, bytes => do
    let (x, bytes) ← item? bytes
    let (xs, rest) ← items? item? count bytes
    return (x :: xs, rest)

end PageSearch.Bytes
