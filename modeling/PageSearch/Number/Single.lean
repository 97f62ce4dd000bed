/-!
# Single-precision numbers

Weights and scores are numbers of the IEEE 754 format binary32. A number is its thirty-two bits, so
that two values which are not numbers stay apart when they are stored or ranked. Arithmetic on
numbers is that of `Float32`; an operand that is not a number passes through an operation, the first
one if there are two, and an operation without a result yields the negative quiet value.

`Single.rank` places every value in the total order of the standard.
-/

namespace PageSearch

/-- A binary32 value, given by its bits. -/
structure Single where
  bits : UInt32
  deriving DecidableEq, Inhabited

namespace Single

def zero : Single := ⟨0⟩

def one : Single := ⟨0x3f800000⟩

def half : Single := ⟨0x3f000000⟩

def hundred : Single := ⟨0x42c80000⟩

def infinity : Single := ⟨0x7f800000⟩

def negInfinity : Single := ⟨0xff800000⟩

/-- The result of an operation that has none, such as infinity less infinity. -/
def invalid : Single := ⟨0xffc00000⟩

/-- The bits without the sign. -/
def magnitude (x : Single) : UInt32 :=
  x.bits &&& 0x7fffffff

def isNegative (x : Single) : Bool :=
  0x80000000 ≤ x.bits

def isNaN (x : Single) : Bool :=
  0x7f800000 < x.magnitude

def isInfinite (x : Single) : Bool :=
  x.magnitude == 0x7f800000

/-- Neither infinite nor undefined. -/
def isFinite (x : Single) : Bool :=
  x.magnitude < 0x7f800000

/-- Greater than zero, infinity included. -/
def isPositive (x : Single) : Bool :=
  0 < x.bits && x.bits ≤ 0x7f800000

/-- At most zero; false of what is not a number. -/
def isNonpositive (x : Single) : Bool :=
  !x.isNaN && !x.isPositive

/-- The value as an operation hands it on when it is not a number. -/
def quiet (x : Single) : Single :=
  ⟨x.bits ||| 0x00400000⟩

def toFloat32 (x : Single) : Float32 :=
  Float32.ofBits x.bits

/-- The bits of a number; what is not a number becomes `invalid`. -/
def ofFloat32 (x : Float32) : Single :=
  if (Single.mk x.toBits).isNaN then invalid else ⟨x.toBits⟩

/-- An operation of two operands, the first undefined operand passing through. -/
def operate (op : Float32 → Float32 → Float32) (x y : Single) : Single :=
  if x.isNaN then x.quiet
  else if y.isNaN then y.quiet
  else ofFloat32 (op x.toFloat32 y.toFloat32)

def add (x y : Single) : Single :=
  operate (· + ·) x y

def mul (x y : Single) : Single :=
  operate (· * ·) x y

def div (x y : Single) : Single :=
  operate (· / ·) x y

instance : Add Single := ⟨add⟩

instance : Mul Single := ⟨mul⟩

instance : Div Single := ⟨div⟩

/-- The number nearest to a count. -/
def ofNat (n : Nat) : Single :=
  ofFloat32 (Float32.ofNat n)

/-- The number with its sign changed; it also turns what is not a number. -/
def neg (x : Single) : Single :=
  ⟨x.bits ^^^ 0x80000000⟩

/-- The place in the total order: undefined negatives, minus infinity, up through both zeros to
infinity and undefined positives. -/
def rank (x : Single) : Int :=
  if x.bits < 0x80000000 then x.bits.toNat else 0x7fffffff - (x.bits.toNat : Int)

/-- Different values have different places in the total order. -/
theorem rank_injective {x y : Single} (h : x.rank = y.rank) : x = y := by
  obtain ⟨a⟩ := x
  obtain ⟨b⟩ := y
  have ha := a.toNat_lt
  have hb := b.toNat_lt
  simp only [rank, UInt32.lt_iff_toNat_lt] at h
  have : a.toNat = b.toNat := by
    split at h <;> split at h <;> simp_all <;> omega
  simp only [mk.injEq]
  exact UInt32.toNat_inj.mp this

/-- The larger of two values; what is not a number gives way. -/
def max (x y : Single) : Single :=
  if x.isNaN then y
  else if y.isNaN then x
  else if x.rank < y.rank then y
  else x

/-- The nearest whole number, a half going up, to a number from zero up to 2 to the 23rd. -/
def roundToNat (x : Single) : Nat :=
  let exponent := (x.magnitude >>> 23).toNat
  let mantissa := (x.bits &&& 0x7fffff).toNat + (if exponent = 0 then 0 else 0x800000)
  let places := 150 - Nat.max exponent 1
  (mantissa * 2 + 1 <<< places) >>> (places + 1)

end Single

end PageSearch
