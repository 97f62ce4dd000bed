import PageSearch.Number.Single

/-!
# The natural logarithm in single precision

A positive number is 2 to the `k` times `z`, with `z` between 0.699 and 1.398. That interval is cut
into sixteen parts, each with a number `c` near its middle, so that the logarithm is

  `k * log 2 + log c + log (1 + r)`  with  `r = z / c - 1`

and `r` is small enough for a polynomial of degree four. The work is done in double precision and
rounded once, which makes the result a function of the operand's bits alone.
-/

namespace PageSearch

namespace Single

/-- For each part of the interval, the inverse of its number `c` and the logarithm of `c`, as the
bits of doubles. -/
def logParts : List (UInt64 × UInt64) := [
  (0x3ff661ec79f8f3be, 0xbfd57bf7808caade), (0x3ff571ed4aaf883d, 0xbfd2bef0a7c06ddb),
  (0x3ff49539f0f010b0, 0xbfd01eae7f513a67), (0x3ff3c995b0b80385, 0xbfcb31d8a68224e9),
  (0x3ff30d190c8864a5, 0xbfc6574f0ac07758), (0x3ff25e227b0b8ea0, 0xbfc1aa2bc79c8100),
  (0x3ff1bb4a4a1a343f, 0xbfba4e76ce8c0e5e), (0x3ff12358f08ae5ba, 0xbfb1973c5a611ccc),
  (0x3ff0953f419900a7, 0xbfa252f438e10c1e), (0x3ff0000000000000, 0x0000000000000000),
  (0x3fee608cfd9a47ac, 0x3faaa5aa5df25984), (0x3feca4b31f026aa0, 0x3fbc5e53aa362eb4),
  (0x3feb2036576afce6, 0x3fc526e57720db08), (0x3fe9c2d163a1aa2d, 0x3fcbc2860d224770),
  (0x3fe886e6037841ed, 0x3fd1058bc8a07ee1), (0x3fe767dcf5534862, 0x3fd4043057b6ee09)]

/-- The double with the value of a positive normal number's bits. -/
def widen (bits : UInt32) : Float :=
  Float.ofBits (bits.toUInt64 * 0x20000000 + 0x3800000000000000)

/-- The number nearest to a double whose size a normal number can have, a tie going to the even
one; a double of size zero gives zero. -/
def narrow (x : Float) : Single :=
  let bits := x.toBits
  let size := bits &&& 0x7fffffffffffffff
  let sign : UInt32 := if bits < 0x8000000000000000 then 0 else 0x80000000
  if size = 0 then ⟨sign⟩
  else
    let shifted := size - 0x3800000000000000
    let odd : UInt64 := shifted / 0x20000000 % 2
    ⟨sign ||| ((shifted + 0xfffffff + odd) / 0x20000000).toUInt32⟩

/-- The logarithm of a positive number whose exponent and fraction are `bits`; the exponent may be
below that of every normal number. -/
def logOfBits (bits : UInt32) : Single :=
  let offset := bits - 0x3f330000
  let part := ((offset >>> 19) % 16).toNat
  let k := (offset.toInt32 >>> 23).toInt
  let z := widen (bits - (offset &&& 0xff800000))
  let (inverse, logC) := logParts.getD part (0, 0)
  let r := z * Float.ofBits inverse - 1
  let y := Float.ofBits logC + Float.ofInt k * Float.ofBits 0x3fe62e42fefa39ef
  let square := r * r
  let cubic := Float.ofBits 0x3fd5575b0be00b6a * r + Float.ofBits 0xbfdffffef20a4123
  let quartic := Float.ofBits 0xbfd00ea348b88334 * square + cubic
  narrow (quartic * square + (y + r))

/-- The natural logarithm. -/
def log (x : Single) : Single :=
  if x.isNaN then x.quiet
  else if x.magnitude = 0 then negInfinity
  else if x.isNegative then invalid
  else if x.isInfinite then x
  else if x.bits < 0x00800000 then
    logOfBits ((ofFloat32 (x.toFloat32 * 8388608)).bits - 0x0b800000)
  else logOfBits x.bits

end Single

end PageSearch
