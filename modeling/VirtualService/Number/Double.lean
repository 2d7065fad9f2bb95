/-
  VirtualService/Number/Double.lean
  =================================
  **64-bit binary floating point numbers as data.**

  A `Double` is its bit pattern.  A finite one stands for `± m · 2^q` with a
  natural significand and an integer exponent, and everything this library
  needs of it (rounding a quotient to the nearest double, product, quotient,
  equality) is exact arithmetic on such pairs.
-/
namespace VirtualService

/-! ### Powers -/

/-- Two to a power, the number of words of that width. -/
def twoTo (n : Nat) : Nat := Nat.pow 2 n

/-- Ten to a power, the weight of a decimal place. -/
def tenTo (n : Nat) : Nat := Nat.pow 10 n

/-- A floating point number, given by its 64 bits: sign, 11 bits of exponent, 52 bits of fraction. -/
structure Double where
  bits : UInt64
deriving DecidableEq, Repr, Inhabited

namespace Double

/-! ### Parts of a number -/

/-- Whether the sign bit is set. -/
def negative (x : Double) : Bool := x.bits.toNat ≥ twoTo 63

/-- The bits without the sign. -/
def magnitudeBits (x : Double) : Nat := x.bits.toNat % twoTo 63

/-- The bits of positive infinity. -/
def infinityBits : Nat := 0x7FF0000000000000

def isFinite (x : Double) : Bool := x.magnitudeBits < infinityBits

def isInfinite (x : Double) : Bool := x.magnitudeBits = infinityBits

def isNaN (x : Double) : Bool := x.magnitudeBits > infinityBits

def isZero (x : Double) : Bool := x.magnitudeBits = 0

/-- The significand `m` of a finite number `± m · 2^q`. -/
def significand (x : Double) : Nat :=
  let fraction := x.magnitudeBits % twoTo 52
  if x.magnitudeBits / twoTo 52 = 0 then fraction else fraction + twoTo 52

/-- The exponent `q` of a finite number `± m · 2^q`. -/
def exponent (x : Double) : Int :=
  let field : Nat := x.magnitudeBits / twoTo 52
  if field = 0 then -1074 else (field : Int) - 1075

/-- Build a number from its sign and the bits of its magnitude. -/
def ofMagnitude (negative : Bool) (magnitude : Nat) : Double :=
  ⟨UInt64.ofNat (if negative then magnitude + twoTo 63 else magnitude)⟩

def infinity (negative : Bool) : Double := ofMagnitude negative infinityBits

def zero (negative : Bool) : Double := ofMagnitude negative 0

/-- The same number with the other sign. -/
def neg (x : Double) : Double := ofMagnitude (!x.negative) x.magnitudeBits

/-! ### Rounding -/

/-- The quotient rounded to the nearest natural number, a half going to the even neighbour. -/
def roundQuotient (a b : Nat) : Nat :=
  let quotient := a / b
  let rest := 2 * (a % b)
  if rest < b then quotient
  else if b < rest then quotient + 1
  else quotient + quotient % 2

/-- The double nearest to `num / den`, a tie going to the even significand; infinity beyond the range. -/
def ofRatio (negative : Bool) (num den : Nat) : Double :=
  if num = 0 then zero negative
  else
    let guess : Int := (num.log2 : Int) - (den.log2 : Int)
    let fits := if guess ≥ 0 then den * twoTo guess.toNat ≤ num else den ≤ num * twoTo (-guess).toNat
    let top := if fits then guess else guess - 1
    let q : Int := max (top - 52) (-1074)
    let m := if q ≥ 0 then roundQuotient num (den * twoTo q.toNat)
             else roundQuotient (num * twoTo (-q).toNat) den
    let magnitude := (q + 1074).toNat * twoTo 52 + m
    ofMagnitude negative (min magnitude infinityBits)

/-- The double nearest to `digits · 10^exponent`. -/
def ofDecimal (negative : Bool) (digits : Nat) (exponent : Int) : Double :=
  if digits = 0 then zero negative
  else if exponent > 400 then infinity negative
  else if exponent < -400 - 4 * digits.log2 then zero negative
  else if exponent ≥ 0 then ofRatio negative (digits * tenTo exponent.toNat) 1
  else ofRatio negative digits (tenTo (-exponent).toNat)

/-- The double nearest to an integer. -/
def ofInt (i : Int) : Double := ofRatio (i < 0) i.natAbs 1

/-! ### Exact quotients -/

/-- The numerator of the magnitude of a finite number over `denominator`. -/
def numerator (x : Double) : Nat := x.significand * twoTo x.exponent.toNat

/-- A power of two below the magnitude of a finite number. -/
def denominator (x : Double) : Nat := twoTo (-x.exponent).toNat

/-- The rounded product of two finite numbers. -/
def mulFinite (x y : Double) : Double :=
  ofRatio (x.negative != y.negative) (x.numerator * y.numerator) (x.denominator * y.denominator)

/-- The rounded quotient of a finite number by a finite number other than zero. -/
def divFinite (x y : Double) : Double :=
  ofRatio (x.negative != y.negative) (x.numerator * y.denominator) (x.denominator * y.numerator)

/-- A value that is no number. -/
def notANumber : Double := ⟨0x7FF8000000000000⟩

/-- The remainder of a division toward zero, exactly; its sign is that of the dividend. -/
def remainder (x y : Double) : Double :=
  if !x.isFinite || y.isNaN || y.isZero then notANumber
  else if y.isInfinite then x
  else
    ofRatio x.negative ((x.numerator * y.denominator) % (y.numerator * x.denominator))
      (x.denominator * y.denominator)

/-- Numerical equality: the two zeros are equal and NaN equals nothing. -/
def same (x y : Double) : Bool :=
  !x.isNaN && (x.bits == y.bits || (x.isZero && y.isZero))

/-- Whether a finite number is an integer, and which. -/
def toInt? (x : Double) : Option Int :=
  if x.isFinite && x.numerator % x.denominator = 0 then
    let magnitude := x.numerator / x.denominator
    some (if x.negative then -(magnitude : Int) else magnitude)
  else none

/-- The machine number with the same bits. -/
def toFloat (x : Double) : Float := Float.ofBits x.bits

/-- The bits of a machine number. -/
def ofFloat (f : Float) : Double := ⟨f.toBits⟩

end Double

end VirtualService
