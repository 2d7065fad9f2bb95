/-
  VirtualService/JsonPath/Syntax.lean
  ===================================
  **JSONPath queries as trees.**

  A query starts at the root of a document or at the current value and takes one
  segment after the other; a segment holds selectors, and a filter selector a
  condition.  A condition compares values, asks whether a query finds anything,
  or matches a text with a pattern.
-/
import VirtualService.Json.Basic

namespace VirtualService.JsonPath

/-- How two values compare. -/
inductive Comparison where
  | equal
  | unequal
  | less
  | atMost
  | greater
  | atLeast
deriving DecidableEq, Repr, Inhabited

/-- Where a query starts. -/
inductive Origin where
  | root
  | current
deriving DecidableEq, Repr, Inhabited

mutual

inductive Selector where
  | name (key : String)
  | wildcard
  | index (position : Int)
  | slice (start stop step : Option Int)
  | filter (condition : Condition)

/-- A segment looks at a value itself or at it and everything below it. -/
inductive Segment where
  | child (selectors : List Selector)
  | descendant (selectors : List Selector)

inductive Query where
  | mk (origin : Origin) (segments : List Segment)

/-- What has at most one value. -/
inductive Operand where
  | literal (value : Json)
  | query (path : Query)
  | length (of : Operand)
  | count (path : Query)
  | value (path : Query)

inductive Condition where
  | or (a b : Condition)
  | and (a b : Condition)
  | not (a : Condition)
  | compare (op : Comparison) (a b : Operand)
  | found (path : Query)
  | matching (whole : Bool) (text pattern : Operand)

end

instance : Inhabited Query := ⟨.mk .root []⟩

/-- A segment that selects at most one value. -/
def Segment.isSingular : Segment → Bool
  | .child [.name _] => true
  | .child [.index _] => true
  | _ => false

/-- A query that selects at most one value. -/
def Query.isSingular : Query → Bool
  | .mk _ segments => segments.all Segment.isSingular

end VirtualService.JsonPath
