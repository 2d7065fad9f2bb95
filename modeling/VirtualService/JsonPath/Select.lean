/-
  VirtualService/JsonPath/Select.lean
  ===================================
  **What a JSONPath query selects.**

  The values are found in the order in which the segments reach them; a
  descendant segment looks at a value before everything below it.  Numbers
  compare by value, texts by code points; what is absent equals only what is
  absent.
-/
import VirtualService.JsonPath.Syntax
import VirtualService.Regex.Match

namespace VirtualService.JsonPath

/-! ### Parts of values -/

/-- The items or members of a value, in order. -/
def children : Json → List Json
  | .arr items => items
  | .obj members => members.map Prod.snd
  | _ => []

mutual

/-- A value and everything below it, each value before what it holds. -/
def subtree : Json → List Json
  | .arr items => .arr items :: subtreeItems items
  | .obj members => .obj members :: subtreeMembers members
  | .null => [.null]
  | .bool b => [.bool b]
  | .num n => [.num n]
  | .str s => [.str s]

def subtreeItems : List Json → List Json
  | [] => []
  | item :: items => subtree item ++ subtreeItems items

def subtreeMembers : List (String × Json) → List Json
  | [] => []
  | (_, value) :: members => subtree value ++ subtreeMembers members

end

/-- The position of an index in a list; a negative one counts from the end. -/
def position? (length : Nat) (i : Int) : Option Nat :=
  let p := if i < 0 then (length : Int) + i else i
  if 0 ≤ p ∧ p < length then some p.toNat else none

/-- Every `step`-th position upward from `i` to below `stop`. -/
def upward (stop : Int) (step : Nat) : Nat → Int → List Nat
  | 0, _ => []
  | fuel + 1, i => if i < stop then i.toNat :: upward stop step fuel (i + step) else []

/-- Every `step`-th position downward from `i` to above `stop`. -/
def downward (stop : Int) (step : Nat) : Nat → Int → List Nat
  | 0, _ => []
  | fuel + 1, i => if stop < i then i.toNat :: downward stop step fuel (i - step) else []

/-- The positions of a slice of a list. -/
def slicePositions (length : Nat) (start stop step : Option Int) : List Nat :=
  let n : Int := length
  let normal (i : Int) : Int := if i < 0 then n + i else i
  let by_ := step.getD 1
  if by_ > 0 then
    let low := min (max (normal (start.getD 0)) 0) n
    let high := min (max (normal (stop.getD n)) 0) n
    upward high by_.toNat (length + 1) low
  else if by_ < 0 then
    let high := min (max (normal (start.getD (n - 1))) (-1)) (n - 1)
    let low := min (max (normal (stop.getD (-n - 1))) (-1)) (n - 1)
    downward low (-by_).toNat (length + 1) high
  else []

/-! ### Comparison -/

/-- Equality of two values, either of which may be absent. -/
def areEqual (a b : Option Json) : Bool :=
  match a, b with
  | none, none => true
  | some (.num m), some (.num n) => Double.same m.toDouble n.toDouble
  | some a, some b => Json.same a b
  | _, _ => false

/-- Order of two numbers or of two texts. -/
def isLess (a b : Option Json) : Bool :=
  match a, b with
  | some (.num m), some (.num n) => m.toDouble.toFloat < n.toDouble.toFloat
  | some (.str s), some (.str t) => s < t
  | _, _ => false

def Comparison.holds (op : Comparison) (a b : Option Json) : Bool :=
  match op with
  | .equal => areEqual a b
  | .unequal => !areEqual a b
  | .less => isLess a b
  | .atMost => isLess a b || areEqual a b
  | .greater => isLess b a
  | .atLeast => isLess b a || areEqual a b

/-- The number of characters, items or members. -/
def lengthOf : Option Json → Option Json
  | some (.str s) => some (.nat s.length)
  | some (.arr items) => some (.nat items.length)
  | some (.obj members) => some (.nat members.length)
  | _ => none

/-- Whether a text matches a pattern as a whole or somewhere; a malformed pattern matches nothing. -/
def matchesPattern (whole : Bool) (text pattern : Option Json) : Bool :=
  match text, pattern with
  | some (.str text), some (.str pattern) =>
      let wrapped := if whole then "(?R)^(" ++ pattern ++ ")$" else "(?R)(" ++ pattern ++ ")"
      match Regex.compile? wrapped false with
      | some r => r.isMatch text
      | none => false
  | _, _ => false

/-! ### Selection -/

/-- The only value of a list. -/
def only : List Json → Option Json
  | [j] => some j
  | _ => none

mutual

/-- What a selector takes of a value. -/
def Selector.select (root : Json) : Selector → Json → List Json
  | .name key, j => (j.member? key).toList
  | .wildcard, j => children j
  | .index i, j =>
      match j with
      | .arr items => ((position? items.length i).bind fun p => items[p]?).toList
      | _ => []
  | .slice start stop step, j =>
      match j with
      | .arr items => (slicePositions items.length start stop step).filterMap fun p => items[p]?
      | _ => []
  | .filter condition, j => (children j).filter fun child => Condition.holds root condition child

def selectAny (root : Json) : List Selector → Json → List Json
  | [], _ => []
  | s :: ss, j => Selector.select root s j ++ selectAny root ss j

def Segment.select (root : Json) : Segment → Json → List Json
  | .child selectors, j => selectAny root selectors j
  | .descendant selectors, j => (subtree j).flatMap fun below => selectAny root selectors below

/-- What the segments take of some values, one segment after the other. -/
def selectAll (root : Json) : List Segment → List Json → List Json
  | [], found => found
  | s :: ss, found => selectAll root ss (found.flatMap fun j => Segment.select root s j)

def Query.select (root : Json) : Query → Json → List Json
  | .mk .root segments, _ => selectAll root segments [root]
  | .mk .current segments, current => selectAll root segments [current]

def Operand.value? (root : Json) : Operand → Json → Option Json
  | .literal value, _ => some value
  | .query path, current => only (Query.select root path current)
  | .length a, current => lengthOf (Operand.value? root a current)
  | .count path, current => some (.nat (Query.select root path current).length)
  | .value path, current => only (Query.select root path current)

def Condition.holds (root : Json) : Condition → Json → Bool
  | .or a b, current => Condition.holds root a current || Condition.holds root b current
  | .and a b, current => Condition.holds root a current && Condition.holds root b current
  | .not a, current => !Condition.holds root a current
  | .compare op a b, current =>
      op.holds (Operand.value? root a current) (Operand.value? root b current)
  | .found path, current => !(Query.select root path current).isEmpty
  | .matching whole text pattern, current =>
      matchesPattern whole (Operand.value? root text current) (Operand.value? root pattern current)

end

/-- The values that a query finds in a document. -/
def Query.find (q : Query) (document : Json) : List Json := Query.select document q document

end VirtualService.JsonPath
