/-
  VirtualService/Number/Digits.lean
  =================================
  **Numbers as text.**

  The digits of a natural number in some base, the values of digits, and the
  two layouts of a decimal: with a point among its digits, or with one digit
  before the point and a power of ten.
-/
import VirtualService.Number.Shortest

namespace VirtualService.Digits

/-! ### Digits and their values -/

/-- The value of a decimal digit. -/
def decimal? (c : Char) : Option Nat :=
  if '0' ≤ c ∧ c ≤ '9' then some (c.toNat - 48) else none

/-- The value of a hexadecimal digit, in either case. -/
def hex? (c : Char) : Option Nat :=
  if '0' ≤ c ∧ c ≤ '9' then some (c.toNat - 48)
  else if 'a' ≤ c ∧ c ≤ 'f' then some (c.toNat - 87)
  else if 'A' ≤ c ∧ c ≤ 'F' then some (c.toNat - 55)
  else none

def isDecimal (c : Char) : Bool := (decimal? c).isSome

/-- The number that a run of decimal digits writes; other characters count as zero. -/
def value (cs : List Char) : Nat := cs.foldl (fun n c => n * 10 + (decimal? c).getD 0) 0

/-- The lower-case digit of a value below 16. -/
def lowerHex (n : Nat) : Char := if n < 10 then Char.ofNat (48 + n) else Char.ofNat (87 + n)

/-- The upper-case digit of a value below 16. -/
def upperHex (n : Nat) : Char := if n < 10 then Char.ofNat (48 + n) else Char.ofNat (55 + n)

/-- Decimal digits, the least significant first. -/
def reversed : Nat → Nat → List Char
  | 0, _ => []
  | fuel + 1, n => Char.ofNat (48 + n % 10) :: (if n < 10 then [] else reversed fuel (n / 10))

/-- The decimal digits of a natural number. -/
def ofNat (n : Nat) : List Char := (reversed (n + 1) n).reverse

/-- The decimal text of an integer. -/
def ofInt (i : Int) : List Char := if i < 0 then '-' :: ofNat i.natAbs else ofNat i.natAbs

/-- Decimal digits with zeros in front up to a width. -/
def padded (width n : Nat) : List Char :=
  let ds := ofNat n
  List.replicate (width - ds.length) '0' ++ ds

/-! ### Layouts of a decimal -/

/-- The decimal with a point among its digits; `whole` is what follows the digits of an integer. -/
def positional (whole : List Char) (d : Shortest.Decimal) : List Char :=
  let ds := ofNat d.digits
  if d.exponent ≥ 0 then ds ++ List.replicate d.exponent.toNat '0' ++ whole
  else
    let places := (-d.exponent).toNat
    if places < ds.length then ds.take (ds.length - places) ++ '.' :: ds.drop (ds.length - places)
    else '0' :: '.' :: (List.replicate (places - ds.length) '0' ++ ds)

/-- The decimal with one digit before the point and a signed power of ten. -/
def scientific (d : Shortest.Decimal) : List Char :=
  let ds := ofNat d.digits
  let e : Int := d.exponent + ((ds.length : Int) - 1)
  let mantissa := match ds with
    | [] => []
    | [c] => [c]
    | c :: rest => c :: '.' :: rest
  mantissa ++ 'e' :: (if e < 0 then '-' else '+') :: ofNat e.natAbs

/-- The power of ten of the first digit. -/
def leadingExponent (d : Shortest.Decimal) : Int :=
  d.exponent + (((ofNat d.digits).length : Int) - 1)

/-! ### Plain decimals -/

/-- The digits of a finite double without an exponent, and without a point if it is an integer. -/
def plainMagnitude (x : Double) : List Char :=
  if x.isZero then ['0'] else positional [] (Shortest.ofDouble .toEven x)

/-- A double as a plain decimal, with words for what is not finite. -/
def plain (x : Double) : List Char :=
  if x.isNaN then ['N', 'a', 'N']
  else
    let magnitude := if x.isInfinite then ['i', 'n', 'f'] else plainMagnitude x
    if x.negative then '-' :: magnitude else magnitude

/-! ### Reading decimals -/

/-- A power of ten after its letter: a sign or none, and at least one digit. -/
def exponent? (cs : List Char) : Option Int :=
  let (negative, ds) := match cs with
    | '+' :: rest => (false, rest)
    | '-' :: rest => (true, rest)
    | _ => (false, cs)
  if ds.isEmpty || !ds.all isDecimal then none
  else some (if negative then -(value ds : Int) else value ds)

/-- An unsigned decimal: digits with a point among, before or after them, and a power of ten or none. -/
def unsigned? (negative : Bool) (cs : List Char) : Option Double :=
  let whole := cs.takeWhile isDecimal
  let rest := cs.dropWhile isDecimal
  let (fraction, rest) := match rest with
    | '.' :: more => (more.takeWhile isDecimal, more.dropWhile isDecimal)
    | _ => ([], rest)
  if whole.isEmpty && fraction.isEmpty then none
  else
    let number (e : Int) := Double.ofDecimal negative (value (whole ++ fraction)) (e - fraction.length)
    match rest with
    | [] => some (number 0)
    | c :: more => if c = 'e' || c = 'E' then (exponent? more).map number else none

/-- A number in decimal, or a word for infinity or for no number, with a sign or none. -/
def double? (cs : List Char) : Option Double :=
  let (negative, cs) := match cs with
    | '+' :: rest => (false, rest)
    | '-' :: rest => (true, rest)
    | _ => (false, cs)
  let word := String.ofList (cs.map Char.toLower)
  if word = "inf" || word = "infinity" then some (Double.infinity negative)
  else if word = "nan" then some Double.notANumber
  else unsigned? negative cs

end VirtualService.Digits
