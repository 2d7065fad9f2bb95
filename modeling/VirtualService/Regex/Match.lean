/-
  VirtualService/Regex/Match.lean
  ===============================
  **Finding matches.**

  A search follows the program depth first, the preferred branch of a fork before
  the other, and never visits a step twice at one place of the text.  Of the
  matches that start first the one that the preferences reach first is found.
-/
import VirtualService.Regex.Parser
import VirtualService.Regex.Program

namespace VirtualService

/-- A compiled pattern. -/
structure Regex where
  program : Regex.Program
deriving Inhabited

namespace Regex

/-! ### Assertions -/

/-- Word characters. -/
def isWord (ascii : Bool) (c : Char) : Bool :=
  if c.toNat < 128 then c.isAlphanum || c = '_' else !ascii && Property.word.has c

/-- The character before a place. -/
def before? (text : Array Char) (place : Nat) : Option Char :=
  match place with
  | 0 => none
  | n + 1 => text[n]?

/-- Whether a place stands as asked between word characters and others. -/
def WordEdge.holds (kind : WordEdge) (wordBefore wordAfter : Bool) : Bool :=
  match kind with
  | .edge => wordBefore != wordAfter
  | .noEdge => wordBefore == wordAfter
  | .start => !wordBefore && wordAfter
  | .stop => wordBefore && !wordAfter
  | .startHalf => !wordBefore
  | .stopHalf => !wordAfter

/-- Whether an assertion holds at a place. -/
def Look.holds (l : Look) (text : Array Char) (place : Nat) : Bool :=
  let before := before? text place
  let after := text[place]?
  match l with
  | .textStart => place = 0
  | .textEnd => place = text.size
  | .lineStart => place = 0 || before = some '\n'
  | .lineEnd => place = text.size || after = some '\n'
  | .crlfStart => place = 0 || before = some '\n' || (before = some '\r' && after ≠ some '\n')
  | .crlfEnd =>
      place = text.size || after = some '\r' || (after = some '\n' && before ≠ some '\r')
  | .word kind ascii => kind.holds (before.any (isWord ascii)) (after.any (isWord ascii))

/-! ### Search -/

/-- Follow the places on the stack; the result is the end of the first match reached, and which
    pairs of step and place were visited. -/
def follow (p : Program) (text : Array Char) :
    Nat → List (Nat × Nat) → Array Bool → Option Nat × Array Bool
  | 0, _, visited => (none, visited)
  | _, [], visited => (none, visited)
  | fuel + 1, (step, place) :: stack, visited =>
      let slot := step * (text.size + 1) + place
      if visited.getD slot true then follow p text fuel stack visited
      else
        let visited := visited.setIfInBounds slot true
        match p.steps[step]? with
        | none => follow p text fuel stack visited
        | some .accept => (some place, visited)
        | some (.char set next) =>
            match text[place]? with
            | some c =>
                if set.has c then follow p text fuel ((next, place + 1) :: stack) visited
                else follow p text fuel stack visited
            | none => follow p text fuel stack visited
        | some (.look assertion next) =>
            if assertion.holds text place then follow p text fuel ((next, place) :: stack) visited
            else follow p text fuel stack visited
        | some (.fork first second) =>
            follow p text fuel ((first, place) :: (second, place) :: stack) visited

/-- Try each place as the start of a match; `count` places are left. -/
def scan (p : Program) (text : Array Char) (budget : Nat) :
    Nat → Nat → Array Bool → Option (Nat × Nat)
  | 0, _, _ => none
  | count + 1, place, visited =>
      match follow p text budget [(p.start, place)] visited with
      | (some stop, _) => some (place, stop)
      | (none, visited) => scan p text budget count (place + 1) visited

/-- The first match at or after a place, as its two ends. -/
def find? (r : Regex) (text : Array Char) (place : Nat) : Option (Nat × Nat) :=
  let slots := r.program.steps.size * (text.size + 1)
  scan r.program text (2 * slots + 2) (text.size + 1 - place) place (Array.replicate slots false)

/-- The pattern matches somewhere in the text. -/
def isMatch (r : Regex) (text : String) : Bool := (r.find? text.toList.toArray 0).isSome

/-! ### Deletion -/

/-- The text from a place on without its matches.  A match of nothing directly after another match
    does not count. -/
def withoutFrom (r : Regex) (text : Array Char) : Nat → Nat → Option Nat → List Char
  | 0, place, _ => (text.extract place text.size).toList
  | fuel + 1, place, last =>
      let found := match r.find? text place with
        | some (a, b) =>
            if a = b && last = some a then
              if place < text.size then r.find? text (place + 1) else none
            else some (a, b)
        | none => none
      match found with
      | none => (text.extract place text.size).toList
      | some (a, b) => (text.extract place a).toList ++ withoutFrom r text fuel b (some b)

/-- The text without the matches of the pattern, from left to right. -/
def without (r : Regex) (text : String) : String :=
  let chars := text.toList.toArray
  String.ofList (r.withoutFrom chars (2 * chars.size + 2) 0 none)

/-! ### Compilation -/

/-- How many bytes a program may take. -/
def maxCost : Nat := 10 * 1024 * 1024

/-- Compile a pattern; none if it is malformed or too large. -/
def compile? (pattern : String) (caseless : Bool) : Option Regex :=
  match Pattern.ofText? pattern caseless with
  | some p => if p.cost ≤ maxCost then some ⟨Program.ofPattern p⟩ else none
  | none => none

end Regex

end VirtualService
