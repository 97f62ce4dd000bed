import PageSearch.Bytes.Basic

/-!
# Numbers of variable length

A number is written in groups of seven bits, lowest first, one to a byte; every byte but the last
has its top bit set. A reader of numbers of so many bits accepts needless bytes as long as they fit
the width, so that a number may have several written forms, of which the writer uses the shortest.
-/

namespace PageSearch.Bytes

/-- The bytes of a number. -/
def varint (n : Nat) : List UInt8 :=
  if n < 128 then [n.toUInt8] else (n % 128 + 128).toUInt8 :: varint (n / 128)

/-- A number of at most so many bits. -/
def varint? (width : Nat) : Reader Nat
  | [] => none
  | b :: bytes =>
    if b.toNat < 128 then
      if b.toNat < 1 <<< width then some (b.toNat, bytes) else none
    else if width ≤ 7 then none
    else (varint? (width - 7) bytes).map fun (n, rest) => (b.toNat - 128 + 128 * n, rest)

/-- A text, preceded by its length in bytes. -/
def sizedText (s : String) : List UInt8 :=
  varint (ofText s).length ++ ofText s

def sizedText? : Reader String := fun bytes => do
  let (size, bytes) ← varint? 64 bytes
  if bytes.length < size then none
  else return (← text? (bytes.take size), bytes.drop size)

/-- Items, preceded by their number. -/
def counted {α : Type} (item : α → List UInt8) (items : List α) : List UInt8 :=
  varint items.length ++ items.flatMap item

def counted? {α : Type} (item? : Reader α) : Reader (List α) := fun bytes => do
  let (count, bytes) ← varint? 64 bytes
  items? item? count bytes

end PageSearch.Bytes
