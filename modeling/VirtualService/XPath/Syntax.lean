/-
  VirtualService/XPath/Syntax.lean
  ================================
  **XPath expressions as trees.**

  Expressions over numbers, texts, truth values and sets of nodes.  A path takes
  steps along axes; a step keeps the nodes that pass its test and its predicates.
  Abbreviations are written out.
-/

namespace VirtualService.XPath

inductive Axis where
  | child
  | descendant
  | parent
  | ancestor
  | followingSibling
  | precedingSibling
  | following
  | preceding
  | attribute
  | space
  | self
  | descendantOrSelf
  | ancestorOrSelf
deriving DecidableEq, Repr, Inhabited

/-- The name of an axis. -/
def Axis.ofName? (name : String) : Option Axis :=
  match name with
  | "child" => some .child
  | "descendant" => some .descendant
  | "parent" => some .parent
  | "ancestor" => some .ancestor
  | "following-sibling" => some .followingSibling
  | "preceding-sibling" => some .precedingSibling
  | "following" => some .following
  | "preceding" => some .preceding
  | "attribute" => some .attribute
  | "namespace" => some .space
  | "self" => some .self
  | "descendant-or-self" => some .descendantOrSelf
  | "ancestor-or-self" => some .ancestorOrSelf
  | _ => none

/-- What a step looks for. -/
inductive NodeTest where
  | any
  | text
  | comment
  | instruction (target : Option String)
  | anyName
  | anyNameIn (qualifier : String)
  | name (qualifier : Option String) (localPart : String)
deriving DecidableEq, Repr, Inhabited

inductive Operator where
  | or
  | and
  | equal
  | unequal
  | less
  | atMost
  | greater
  | atLeast
  | add
  | subtract
  | multiply
  | divide
  | modulo
  | union
deriving DecidableEq, Repr, Inhabited

mutual

inductive Expr where
  | number (value : Float)
  | text (value : String)
  | variable
  | call (function : String) (arguments : List Expr)
  | negate (a : Expr)
  | binary (op : Operator) (a b : Expr)
  /-- The nodes of a set that pass a predicate. -/
  | filter (nodes : Expr) (predicate : Expr)
  /-- Steps from the nodes of a set. -/
  | path (start : Expr) (steps : List PathStep)
  | root
  | current

inductive PathStep where
  | mk (axis : Axis) (test : NodeTest) (predicates : List Expr)

end

instance : Inhabited Expr := ⟨.current⟩

end VirtualService.XPath
