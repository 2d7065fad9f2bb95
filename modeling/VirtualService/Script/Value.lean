/-
  VirtualService/Script/Value.lean
  ================================
  **Values of scripts.**

  Integers have 64 bits, and arithmetic that leaves them fails.  Values of
  different types are unequal and in no order, except that integers and floats
  compare as numbers and characters and texts as texts.
-/
import VirtualService.Json.Printer
import VirtualService.Text.Upper

namespace VirtualService.Script

inductive Value where
  | unit
  | bool (b : Bool)
  | int (i : Int)
  | float (x : Float)
  | char (c : Char)
  | text (s : String)
  | array (items : List Value)
  | map (members : List (String × Value))
  | range (start stop : Int)
deriving Inhabited

namespace Value

/-- The name of the type of a value. -/
def typeName : Value → String
  | unit => "()"
  | bool _ => "bool"
  | int _ => "i64"
  | float _ => "f64"
  | char _ => "char"
  | text _ => "string"
  | array _ => "array"
  | map _ => "map"
  | range _ _ => "range"

mutual

/-- A JSON value for a script: an integer beyond 64 signed bits becomes a float. -/
def ofJson : Json → Value
  | .null => .unit
  | .bool b => .bool b
  | .num (.int i) => if i ≤ 9223372036854775807 then .int i else .float (Double.ofInt i).toFloat
  | .num (.float x) => .float x.toFloat
  | .str s => .text s
  | .arr items => .array (ofItems items)
  | .obj members => .map (ofMembers members)

def ofItems : List Json → List Value
  | [] => []
  | j :: rest => ofJson j :: ofItems rest

def ofMembers : List (String × Json) → List (String × Value)
  | [] => []
  | (k, j) :: rest => (k, ofJson j) :: ofMembers rest

end

/-! ### Comparison -/

/-- A number as a float. -/
def number? : Value → Option Float
  | int i => some (Double.ofInt i).toFloat
  | float x => some x
  | _ => none

/-- A text or a single character as a text. -/
def chars? : Value → Option String
  | char c => some (String.singleton c)
  | text s => some s
  | _ => none

mutual

def equals : Value → Value → Bool
  | .unit, .unit => true
  | .bool a, .bool b => a == b
  | .int a, .int b => a == b
  | .range a b, .range c d => a == c && b == d
  | .array as, .array bs => equalItems as bs
  | .map as, .map bs => equalMembers as bs
  | a, b =>
      match a.number?, b.number? with
      | some x, some y => x == y
      | _, _ =>
          match a.chars?, b.chars? with
          | some s, some t => s == t
          | _, _ => false

def equalItems : List Value → List Value → Bool
  | [], [] => true
  | a :: as, b :: bs => equals a b && equalItems as bs
  | _, _ => false

def equalMembers : List (String × Value) → List (String × Value) → Bool
  | [], [] => true
  | (k, a) :: as, (l, b) :: bs => k == l && equals a b && equalMembers as bs
  | _, _ => false

end

/-- How two values stand in order, if they are in one. -/
def compare? (a b : Value) : Option Ordering :=
  match a, b with
  | .int x, .int y => some (compare x y)
  | .bool x, .bool y => some (compare x y)
  | _, _ =>
      match a.number?, b.number? with
      | some x, some y => if x < y then some .lt else if x > y then some .gt
                          else if x == y then some .eq else none
      | _, _ =>
          match a.chars?, b.chars? with
          | some s, some t => some (compare s t)
          | _, _ => none

/-! ### Arithmetic -/

/-- An integer of 64 bits, or nothing. -/
def checked (i : Int) : Option Value :=
  if -9223372036854775808 ≤ i ∧ i ≤ 9223372036854775807 then some (.int i) else none

/-- The text of a value when it is joined to a text. -/
def shown : Value → Option String
  | .unit => some ""
  | .bool b => some (if b then "true" else "false")
  | .int i => some (Number.int i).text
  | .float x => some (Number.float (Double.ofFloat x)).text
  | .char c => some (String.singleton c)
  | .text s => some s
  | _ => none

/-- A power by repeated multiplication. -/
def power (x : Int) (n : Nat) : Option Value :=
  if n > 63 && x.natAbs > 1 then none
  else checked (Int.pow x (if x.natAbs ≤ 1 && n > 1 then 2 - n % 2 else n))

/-- The position of an index among `length` items; a negative one counts from the end. -/
def position? (length : Nat) (i : Int) : Option Nat :=
  let p := if i < 0 then (length : Int) + i else i
  if 0 ≤ p ∧ p < length then some p.toNat else none

end Value

end VirtualService.Script
