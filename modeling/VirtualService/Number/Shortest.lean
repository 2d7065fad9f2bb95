/-
  VirtualService/Number/Shortest.lean
  ===================================
  **The shortest decimal that reads back.**

  Each finite double other than zero stands for the interval of reals that round
  to it.  Of the decimals in that interval those with the fewest digits are
  wanted, and of these the one nearest to the double.  Both neighbours of the
  double are tried on the grids of 1, 2, … 17 digits, in exact arithmetic.
-/
import VirtualService.Number.Double

namespace VirtualService.Shortest

/-- A positive decimal `digits · 10^exponent`. -/
structure Decimal where
  digits : Nat
  exponent : Int
deriving DecidableEq, Repr

/-- What to do when the two neighbours on a grid are equally near. -/
inductive Tie where
  | toEven
  | up
deriving DecidableEq, Repr

/-- A positive rational `value` and the ends of the interval that rounds to it, over one denominator. -/
structure Span where
  low : Nat
  value : Nat
  high : Nat
  den : Nat
  closed : Bool

/-- The reals that round to a positive finite double. -/
def Span.ofDouble (x : Double) : Span :=
  let m := x.significand
  let q := x.exponent - 2
  let scale := twoTo q.toNat
  let lower := if m = twoTo 52 && x.exponent > -1074 then 1 else 2
  { low := (4 * m - lower) * scale
    value := 4 * m * scale
    high := (4 * m + 2) * scale
    den := twoTo (-q).toNat
    closed := m % 2 = 0 }

/-- The rational `d · 10^e` lies in the span. -/
def Span.holds (s : Span) (d : Nat) (e : Int) : Bool :=
  let scaled := d * tenTo e.toNat * s.den
  let unit := tenTo (-e).toNat
  let low := s.low * unit
  let high := s.high * unit
  if s.closed then low ≤ scaled && scaled ≤ high else low < scaled && scaled < high

/-- Count the factors ten between `small` and `big`, up to a limit. -/
def tensBetween : Nat → Nat → Nat → Nat
  | 0, _, _ => 0
  | limit + 1, small, big => if small < big then tensBetween limit (small * 10) big + 1 else 0

/-- The `k` with `10^(k-1) ≤ value < 10^k`. -/
def Span.pointPlace (s : Span) : Int :=
  if s.den ≤ s.value then (tensBetween 400 s.den (s.value + 1) : Int)
  else 1 - (tensBetween 400 s.value s.den : Int)

/-- Drop the zeros at the end of the digits. -/
def Decimal.trim : Nat → Decimal → Decimal
  | 0, d => d
  | fuel + 1, d =>
      if d.digits % 10 = 0 && d.digits ≠ 0 then trim fuel ⟨d.digits / 10, d.exponent + 1⟩ else d

/-- The better of the two neighbours of the value on the grid with unit `10^e`, if either is in the span. -/
def Span.onGrid (s : Span) (tie : Tie) (e : Int) : Option Nat :=
  let num := s.value * tenTo (-e).toNat
  let den := s.den * tenTo e.toNat
  let below := num / den
  let rest := 2 * (num % den)
  let belowHit := below ≠ 0 && s.holds below e
  let aboveHit := s.holds (below + 1) e
  match belowHit, aboveHit with
  | false, false => none
  | true, false => some below
  | false, true => some (below + 1)
  | true, true =>
      if rest < den then some below
      else if den < rest then some (below + 1)
      else match tie with
        | .toEven => some (below + below % 2)
        | .up => some (below + 1)

/-- Try the grids of `count`, `count + 1`, … digits. -/
def Span.search (s : Span) (tie : Tie) (place : Int) : Nat → Nat → Decimal
  | 0, _ => ⟨s.value, 0⟩
  | tries + 1, count =>
      let e := place - count
      match s.onGrid tie e with
      | some d => ⟨d, e⟩
      | none => search s tie place tries (count + 1)

/-- The nearest among the shortest decimals that round to a positive finite double. -/
def ofDouble (tie : Tie) (x : Double) : Decimal :=
  let s := Span.ofDouble x
  Decimal.trim 400 (s.search tie s.pointPlace 17 1)

end VirtualService.Shortest
