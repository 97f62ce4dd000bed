/-!
# XXH3

The 64-bit XXH3 hash of a string of bytes, without a seed. Five ways of mixing share the work by
length: up to 3, 8, 16, 128 and 240 bytes. A longer string runs through eight accumulators in
stripes of 64 bytes, sixteen of them to a block, after which the accumulators are scrambled.

Words are read with their lowest byte first; arithmetic is modulo 2 to the 64th.
-/

namespace PageSearch.Xxh3

/-- The bytes that are mixed into every input. -/
def secret : Array UInt8 := #[
  0xb8, 0xfe, 0x6c, 0x39, 0x23, 0xa4, 0x4b, 0xbe, 0x7c, 0x01, 0x81, 0x2c, 0xf7, 0x21, 0xad, 0x1c,
  0xde, 0xd4, 0x6d, 0xe9, 0x83, 0x90, 0x97, 0xdb, 0x72, 0x40, 0xa4, 0xa4, 0xb7, 0xb3, 0x67, 0x1f,
  0xcb, 0x79, 0xe6, 0x4e, 0xcc, 0xc0, 0xe5, 0x78, 0x82, 0x5a, 0xd0, 0x7d, 0xcc, 0xff, 0x72, 0x21,
  0xb8, 0x08, 0x46, 0x74, 0xf7, 0x43, 0x24, 0x8e, 0xe0, 0x35, 0x90, 0xe6, 0x81, 0x3a, 0x26, 0x4c,
  0x3c, 0x28, 0x52, 0xbb, 0x91, 0xc3, 0x00, 0xcb, 0x88, 0xd0, 0x65, 0x8b, 0x1b, 0x53, 0x2e, 0xa3,
  0x71, 0x64, 0x48, 0x97, 0xa2, 0x0d, 0xf9, 0x4e, 0x38, 0x19, 0xef, 0x46, 0xa9, 0xde, 0xac, 0xd8,
  0xa8, 0xfa, 0x76, 0x3f, 0xe3, 0x9c, 0x34, 0x3f, 0xf9, 0xdc, 0xbb, 0xc7, 0xc7, 0x0b, 0x4f, 0x1d,
  0x8a, 0x51, 0xe0, 0x4b, 0xcd, 0xb4, 0x59, 0x31, 0xc8, 0x9f, 0x7e, 0xc9, 0xd9, 0x78, 0x73, 0x64,
  0xea, 0xc5, 0xac, 0x83, 0x34, 0xd3, 0xeb, 0xc3, 0xc5, 0x81, 0xa0, 0xff, 0xfa, 0x13, 0x63, 0xeb,
  0x17, 0x0d, 0xdd, 0x51, 0xb7, 0xf0, 0xda, 0x49, 0xd3, 0x16, 0x55, 0x26, 0x29, 0xd4, 0x68, 0x9e,
  0x2b, 0x16, 0xbe, 0x58, 0x7d, 0x47, 0xa1, 0xfc, 0x8f, 0xf8, 0xb8, 0xd1, 0x7a, 0xd0, 0x31, 0xce,
  0x45, 0xcb, 0x3a, 0x8f, 0x95, 0x16, 0x04, 0x28, 0xaf, 0xd7, 0xfb, 0xca, 0xbb, 0x4b, 0x40, 0x7e]

def prime32a : UInt64 := 0x9e3779b1

def prime32b : UInt64 := 0x85ebca77

def prime32c : UInt64 := 0xc2b2ae3d

def prime64a : UInt64 := 0x9e3779b185ebca87

def prime64b : UInt64 := 0xc2b2ae3d27d4eb4f

def prime64c : UInt64 := 0x165667b19e3779f9

def prime64d : UInt64 := 0x85ebca77c2b2ae63

def prime64e : UInt64 := 0x27d4eb2f165667c5

def mixPrimeA : UInt64 := 0x165667919e3779f9

def mixPrimeB : UInt64 := 0x9fb21c651e98df25

/-- The byte at a place, zero past the end. -/
def byteAt (bytes : Array UInt8) (i : Nat) : UInt64 :=
  (bytes.getD i 0).toUInt64

/-- The word of so many bytes at a place. -/
def wordAt (bytes : Array UInt8) (i : Nat) : Nat → UInt64
  | 0 => 0
  | width + 1 => byteAt bytes i + 256 * wordAt bytes (i + 1) width

/-- The word of eight bytes at a place. -/
def read64 (bytes : Array UInt8) (i : Nat) : UInt64 :=
  wordAt bytes i 8

/-- The word of four bytes at a place. -/
def read32 (bytes : Array UInt8) (i : Nat) : UInt64 :=
  wordAt bytes i 4

def rotateLeft (x : UInt64) (n : UInt64) : UInt64 :=
  (x <<< n) ||| (x >>> (64 - n))

/-- The bytes of a word in the opposite order. -/
def reverseBytes (x : UInt64) : UInt64 :=
  (List.range 8).foldl
    (fun (reversed : UInt64) (i : Nat) =>
      let byte : UInt64 := (x.toNat >>> (8 * i)).toUInt64 % 256
      reversed * 256 + byte) 0

/-- The two halves of a product of 128 bits, combined. -/
def foldedMul (x y : UInt64) : UInt64 :=
  let product := x.toNat * y.toNat
  product.toUInt64 ^^^ (product >>> 64).toUInt64

def shiftXor (x : UInt64) (n : UInt64) : UInt64 :=
  x ^^^ (x >>> n)

/-- The last touch of most lengths. -/
def avalanche (h : UInt64) : UInt64 :=
  shiftXor (shiftXor h 37 * mixPrimeA) 32

/-- The last touch of the shortest strings. -/
def strongAvalanche (h : UInt64) : UInt64 :=
  shiftXor (shiftXor (shiftXor h 33 * prime64b) 29 * prime64c) 32

/-- Up to three bytes. -/
def hashTiny (bytes : Array UInt8) : UInt64 :=
  let size := bytes.size
  if size = 0 then strongAvalanche (read64 secret 56 ^^^ read64 secret 64)
  else
    let combined :=
      byteAt bytes 0 * 0x10000 + byteAt bytes (size / 2) * 0x1000000 + byteAt bytes (size - 1) +
        size.toUInt64 * 0x100
    strongAvalanche (combined ^^^ (read32 secret 0 ^^^ read32 secret 4))

/-- Four to eight bytes. -/
def hashShort (bytes : Array UInt8) : UInt64 :=
  let size := bytes.size
  let input := read32 bytes (size - 4) + read32 bytes 0 * 0x100000000
  let keyed := input ^^^ (read64 secret 8 ^^^ read64 secret 16)
  let mixed := (keyed ^^^ rotateLeft keyed 49 ^^^ rotateLeft keyed 24) * mixPrimeB
  shiftXor ((mixed ^^^ ((mixed >>> 35) + size.toUInt64)) * mixPrimeB) 28

/-- Nine to sixteen bytes. -/
def hashBrief (bytes : Array UInt8) : UInt64 :=
  let size := bytes.size
  let low := read64 bytes 0 ^^^ (read64 secret 24 ^^^ read64 secret 32)
  let high := read64 bytes (size - 8) ^^^ (read64 secret 40 ^^^ read64 secret 48)
  avalanche (size.toUInt64 + reverseBytes low + high + foldedMul low high)

/-- Sixteen bytes at a place, mixed with sixteen bytes of the secret. -/
def mix16 (bytes : Array UInt8) (i key : Nat) : UInt64 :=
  foldedMul (read64 bytes i ^^^ read64 secret key)
    (read64 bytes (i + 8) ^^^ read64 secret (key + 8))

/-- Seventeen to 128 bytes: pairs of sixteen bytes from both ends inwards. -/
def hashMedium (bytes : Array UInt8) : UInt64 :=
  let size := bytes.size
  let pairs := (size - 1) / 32 + 1
  avalanche <| (List.range pairs).foldl
    (fun acc i => acc + mix16 bytes (16 * i) (32 * i) +
      mix16 bytes (size - 16 * (i + 1)) (32 * i + 16))
    (size.toUInt64 * prime64a)

/-- 129 to 240 bytes: eight rounds of sixteen bytes, then the others and the last sixteen. -/
def hashLarge (bytes : Array UInt8) : UInt64 :=
  let size := bytes.size
  let start := (List.range 8).foldl (fun acc i => acc + mix16 bytes (16 * i) (16 * i))
    (size.toUInt64 * prime64a)
  let middle := (List.range (size / 16 - 8)).foldl
    (fun acc i => acc + mix16 bytes (16 * (i + 8)) (16 * i + 3)) (avalanche start)
  avalanche (middle + mix16 bytes (size - 16) 119)

/-- The eight accumulators at the start. -/
def initialLanes : List UInt64 :=
  [prime32c, prime64a, prime64b, prime64c, prime64d, prime32b, prime64e, prime32a]

/-- Adds a stripe of 64 bytes. Each word goes to its neighbour's accumulator as it is, and to its
own as the product of its halves, mixed with the secret. -/
def addStripe (bytes : Array UInt8) (i key : Nat) (lanes : List UInt64) : List UInt64 :=
  lanes.zipIdx.map fun (lane, n) =>
    let keyed := read64 bytes (i + 8 * n) ^^^ read64 secret (key + 8 * n)
    let neighbour := if n % 2 = 0 then n + 1 else n - 1
    lane + read64 bytes (i + 8 * neighbour) + keyed % 0x100000000 * (keyed >>> 32)

def scramble (lanes : List UInt64) : List UInt64 :=
  lanes.zipIdx.map fun (lane, n) =>
    (shiftXor lane 47 ^^^ read64 secret (128 + 8 * n)) * prime32a

/-- Adds so many stripes from a place on. -/
def addStripes (bytes : Array UInt8) (i count : Nat) (lanes : List UInt64) : List UInt64 :=
  (List.range count).foldl (fun lanes n => addStripe bytes (i + 64 * n) (8 * n) lanes) lanes

/-- The accumulators, brought together. -/
def mergeLanes (lanes : List UInt64) (start : UInt64) : UInt64 :=
  avalanche <| (List.range 4).foldl
    (fun acc n => acc + foldedMul (lanes.getD (2 * n) 0 ^^^ read64 secret (11 + 16 * n))
      (lanes.getD (2 * n + 1) 0 ^^^ read64 secret (19 + 16 * n)))
    start

/-- More than 240 bytes. -/
def hashLong (bytes : Array UInt8) : UInt64 :=
  let size := bytes.size
  let blocks := (size - 1) / 1024
  let full := (List.range blocks).foldl
    (fun lanes b => scramble (addStripes bytes (1024 * b) 16 lanes)) initialLanes
  let rest := addStripes bytes (1024 * blocks) ((size - 1 - 1024 * blocks) / 64) full
  mergeLanes (addStripe bytes (size - 64) 121 rest) (size.toUInt64 * prime64a)

/-- The hash of a string of bytes. -/
def hash (bytes : Array UInt8) : UInt64 :=
  if bytes.size ≤ 3 then hashTiny bytes
  else if bytes.size ≤ 8 then hashShort bytes
  else if bytes.size ≤ 16 then hashBrief bytes
  else if bytes.size ≤ 128 then hashMedium bytes
  else if bytes.size ≤ 240 then hashLarge bytes
  else hashLong bytes

end PageSearch.Xxh3
