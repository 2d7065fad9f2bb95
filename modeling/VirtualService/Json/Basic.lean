/-
  VirtualService/Json/Basic.lean
  ==============================
  **JSON values.**

  The data that requests, stubs and predicates are made of.  An integer is told
  apart from a floating point number, and the members of an object are a
  dictionary, so that their order is the order of the keys.
-/
import VirtualService.Dict
import VirtualService.Number.Double

namespace VirtualService

/-- A JSON number: an integer within 64 bits, or a floating point number. -/
inductive Number where
  | int (value : Int)
  | float (value : Double)
deriving DecidableEq, Repr, Inhabited

/-- A JSON value. -/
inductive Json where
  | null
  | bool (b : Bool)
  | num (n : Number)
  | str (s : String)
  | arr (items : List Json)
  | obj (members : List (String × Json))
deriving Repr, Inhabited

namespace Number

/-- The least and greatest integers a number keeps as an integer. -/
def inRange (i : Int) : Bool := -9223372036854775808 ≤ i && i ≤ 18446744073709551615

/-- Equality of value within a kind: floats compare numerically, and an integer never equals a float. -/
def same : Number → Number → Bool
  | .int a, .int b => a == b
  | .float a, .float b => Double.same a b
  | _, _ => false

/-- The number as a double. -/
def toDouble : Number → Double
  | .int i => Double.ofInt i
  | .float d => d

end Number

namespace Json

/-! ### Construction and inspection -/

def int (i : Int) : Json := .num (.int i)

def nat (n : Nat) : Json := .num (.int n)

/-- An object with the given members. -/
def ofPairs (pairs : List (String × Json)) : Json := .obj (Dict.ofList pairs)

/-- A value, or null in its absence. -/
def ofOption {α : Type} (f : α → Json) : Option α → Json
  | none => .null
  | some a => f a

/-- The member of an object; nothing else has members. -/
def member? (j : Json) (key : String) : Option Json :=
  match j with
  | .obj members => Dict.find? members key
  | _ => none

def str? : Json → Option String
  | .str s => some s
  | _ => none

/-- Arrays and objects. -/
def isStructured : Json → Bool
  | .arr _ => true
  | .obj _ => true
  | _ => false

/-! ### Equality -/

mutual

/-- Equality of values, in which two floats are compared as numbers. -/
def same : Json → Json → Bool
  | .null, .null => true
  | .bool a, .bool b => a == b
  | .num a, .num b => Number.same a b
  | .str a, .str b => a == b
  | .arr as, .arr bs => sameItems as bs
  | .obj as, .obj bs => sameMembers as bs
  | _, _ => false

def sameItems : List Json → List Json → Bool
  | [], [] => true
  | a :: as, b :: bs => same a b && sameItems as bs
  | _, _ => false

def sameMembers : List (String × Json) → List (String × Json) → Bool
  | [], [] => true
  | (k, a) :: as, (k', b) :: bs => k == k' && same a b && sameMembers as bs
  | _, _ => false

end

/-! ### Size -/

mutual

/-- A measure of a value that counts its nodes and the bytes of its texts. -/
def weight : Json → Nat
  | .str s => s.utf8ByteSize + 1
  | .arr items => weightItems items + 1
  | .obj members => weightMembers members + 1
  | _ => 1

def weightItems : List Json → Nat
  | [] => 0
  | j :: rest => weight j + weightItems rest + 1

def weightMembers : List (String × Json) → Nat
  | [] => 0
  | (_, j) :: rest => weight j + weightMembers rest + 1

end

/-! ### Objects from pairs with repeated keys -/

/-- Give a key one more value: a key that occurs once keeps its value, and the values of a key that
    occurs more often become an array, in order of appearance.  The values themselves are never
    arrays, so an array in the object is always a gathered one. -/
def gather (members : Dict Json) (key : String) (value : Json) : Dict Json :=
  match Dict.find? members key with
  | none => Dict.insert members key value
  | some (.arr values) => Dict.insert members key (.arr (values ++ [value]))
  | some first => Dict.insert members key (.arr [first, value])

/-- Give the keys of a list of pairs their values, one pair after the other. -/
def gatherAll (members : Dict Json) (pairs : List (String × Json)) : Dict Json :=
  pairs.foldl (fun members entry => gather members entry.1 entry.2) members

end Json

end VirtualService
