/-
  VirtualService/Predicate/Definition.lean
  ========================================
  **Predicates as they are authored.**

  A leaf compares fields of a request by one of seven operators, with parameters
  that say how.  Composite predicates combine others, and a script decides for
  itself.
-/
import VirtualService.Predicate.Key

namespace VirtualService

/-- How a leaf compares. -/
inductive Operator where
  | equals
  | deepEquals
  | contains
  | startsWith
  | endsWith
  | matching
  | presence
deriving DecidableEq, Repr, Inhabited

namespace Operator

def all : List Operator := [equals, deepEquals, contains, startsWith, endsWith, matching, presence]

/-- The key under which an operator is authored. -/
def key : Operator → String
  | equals => "equals"
  | deepEquals => "deepEquals"
  | contains => "contains"
  | startsWith => "startsWith"
  | endsWith => "endsWith"
  | matching => "matches"
  | presence => "exists"

def ofKey? (key : String) : Option Operator := all.find? fun operator => operator.key = key

end Operator

/-- An XPath selector with the namespaces of its prefixes. -/
structure XPathSelector where
  selector : String
  namespaces : Option (Dict Json)
deriving Repr, Inhabited

/-- The parameters of a leaf. -/
structure PredicateOptions where
  caseSensitive : Bool
  keyCaseSensitive : Option Bool
  /-- A pattern whose matches are taken out of the values; empty for none. -/
  exceptPattern : String
  jsonPath : Option String
  xpath : Option XPathSelector
deriving Repr, Inhabited

/-- An authored predicate. -/
inductive Predicate where
  | leaf (operator : Operator) (fields : Dict Json) (options : PredicateOptions)
  | allOf (children : List Predicate)
  | anyOf (children : List Predicate)
  | negation (child : Predicate)
  | script (source : String)
deriving Repr, Inhabited

namespace XPathSelector

/-- Equality, in which numbers compare by value. -/
def same (a b : XPathSelector) : Bool :=
  a.selector == b.selector &&
    match a.namespaces, b.namespaces with
    | none, none => true
    | some ns, some ms => Json.sameMembers ns ms
    | _, _ => false

end XPathSelector

namespace PredicateOptions

/-- No parameters at all. -/
def default : PredicateOptions := ⟨false, none, "", none, none⟩

/-- Keys follow the case of values unless they have a rule of their own. -/
def keyMatch (o : PredicateOptions) : KeyMatch :=
  KeyMatch.ofCaseSensitive (o.keyCaseSensitive.getD o.caseSensitive)

/-- Equality, in which numbers compare by value. -/
def same (a b : PredicateOptions) : Bool :=
  a.caseSensitive == b.caseSensitive && a.keyCaseSensitive == b.keyCaseSensitive &&
    a.exceptPattern == b.exceptPattern && a.jsonPath == b.jsonPath &&
    match a.xpath, b.xpath with
    | none, none => true
    | some x, some y => XPathSelector.same x y
    | _, _ => false

def isDefault (o : PredicateOptions) : Bool := o.same default

end PredicateOptions

namespace Predicate

mutual

/-- Equality, in which numbers compare by value. -/
def same : Predicate → Predicate → Bool
  | .leaf op fields options, .leaf op' fields' options' =>
      op == op' && Json.sameMembers fields fields' && PredicateOptions.same options options'
  | .allOf ps, .allOf qs => sameAll ps qs
  | .anyOf ps, .anyOf qs => sameAll ps qs
  | .negation p, .negation q => same p q
  | .script s, .script t => s == t
  | _, _ => false

def sameAll : List Predicate → List Predicate → Bool
  | [], [] => true
  | p :: ps, q :: qs => same p q && sameAll ps qs
  | _, _ => false

end

mutual

/-- Some script decides within the predicate. -/
def usesScript : Predicate → Bool
  | .leaf .. => false
  | .allOf children => anyUsesScript children
  | .anyOf children => anyUsesScript children
  | .negation child => usesScript child
  | .script _ => true

def anyUsesScript : List Predicate → Bool
  | [] => false
  | p :: ps => usesScript p || anyUsesScript ps

end

end Predicate

end VirtualService
