/-
  VirtualService/Text/CharSet.lean
  ================================
  **Sets of characters as runs of code points.**

  A set is the array of its runs in ascending order, none touching the next, so
  that membership is a search by bisection.
-/
import VirtualService.Number.Digits

namespace VirtualService

/-- A set of characters, as ascending runs of code points with both ends included. -/
structure CharSet where
  runs : Array (Nat × Nat)
deriving Repr, Inhabited

namespace CharSet

/-! ### Membership -/

/-- Search the runs from `low` up to below `high`. -/
def bisect (runs : Array (Nat × Nat)) (point : Nat) : Nat → Nat → Nat → Bool
  | 0, _, _ => false
  | fuel + 1, low, high =>
      if high ≤ low then false
      else
        let middle := (low + high) / 2
        match runs[middle]? with
        | none => false
        | some (first, last) =>
            if point < first then bisect runs point fuel low middle
            else if last < point then bisect runs point fuel (middle + 1) high
            else true

/-- Whether a code point is in the set. -/
def hasPoint (s : CharSet) (point : Nat) : Bool := bisect s.runs point 32 0 s.runs.size

/-- Whether a character is in the set. -/
def has (s : CharSet) (c : Char) : Bool := s.hasPoint c.toNat

/-! ### Construction -/

/-- Join runs that overlap or touch; the list ascends by first point. -/
def join : List (Nat × Nat) → List (Nat × Nat)
  | [] => []
  | (a, b) :: rest =>
      match join rest with
      | [] => [(a, b)]
      | (c, d) :: more => if c ≤ b + 1 then (a, max b d) :: more else (a, b) :: (c, d) :: more

/-- The set of the given runs, in any order. -/
def ofRuns (runs : List (Nat × Nat)) : CharSet :=
  ⟨(join (runs.mergeSort (fun x y => x.1 ≤ y.1))).toArray⟩

/-- All characters of some of the sets. -/
def union (sets : List CharSet) : CharSet := ofRuns (sets.flatMap fun s => s.runs.toList)

/-- The gaps between the runs, from a point up to the last code point. -/
def gaps (start : Nat) : List (Nat × Nat) → List (Nat × Nat)
  | [] => if start ≤ 0x10FFFF then [(start, 0x10FFFF)] else []
  | (a, b) :: rest => if start < a then (start, a - 1) :: gaps (b + 1) rest else gaps (b + 1) rest

/-- All characters that are not in the set. -/
def complement (s : CharSet) : CharSet := ⟨(gaps 0 s.runs.toList).toArray⟩

/-! ### Written sets

A set is written as its runs, separated by blanks; a run is one code point in
hexadecimal or two with a dash between them. -/

/-- Read runs: the runs so far, the first point of the open run, the number being read. -/
def readRuns : List Char → List (Nat × Nat) → Option Nat → Nat → List (Nat × Nat)
  | [], acc, first, n => (first.getD n, n) :: acc
  | c :: cs, acc, first, n =>
      if c = ' ' then readRuns cs ((first.getD n, n) :: acc) none 0
      else if c = '-' then readRuns cs acc (some n) 0
      else readRuns cs acc first (n * 16 + (Digits.hex? c).getD 0)

/-- The set that some lines of text write. -/
def ofLines (lines : List String) : CharSet :=
  ⟨(lines.flatMap fun line => (readRuns line.toList [] none 0).reverse).toArray⟩

end CharSet

end VirtualService
