/-
  VirtualService/XPath/Selector.lean
  ==================================
  **Selecting text from XML by XPath.**

  A selector is checked when it is compiled.  It selects the text of the one node
  it finds, an array of the texts of several, or the text of the value that the
  expression has; nothing where it finds no node.

  These are `compile` and `select` of the service's compiled selector.
-/
import VirtualService.XPath.Eval
import VirtualService.Predicate.Definition
import VirtualService.DefinitionError

namespace VirtualService

/-- A compiled XPath selector. -/
structure CompiledXPath where
  expr : XPath.Expr
  spaces : List (String × String)
deriving Inhabited

namespace CompiledXPath

/-- The namespaces of a selector; each must be a text. -/
def spacesOf (selector : String) (namespaces : Dict Json) :
    Except DefinitionError (List (String × String)) :=
  namespaces.mapM fun entry =>
    match entry.2 with
    | .str uri => .ok (entry.1, uri)
    | other => .error (.invalidXPath selector (.namespaceNotText entry.1 other))

/-- Compile a selector. -/
def compile (s : XPathSelector) : Except DefinitionError CompiledXPath :=
  match XPath.Reading.ofText s.selector with
  | .malformed => .error (.invalidXPath s.selector .malformed)
  | .empty => .error (.invalidXPath s.selector .empty)
  | .expr e => (spacesOf s.selector (s.namespaces.getD [])).map fun spaces => ⟨e, spaces⟩

/-- A number as the value of a whole expression: an integer is kept within 64 bits. -/
def numberText (x : Double) : String :=
  match x.toInt? with
  | some i => String.ofList (Digits.ofInt (min (max i (-9223372036854775808)) 9223372036854775807))
  | none => String.ofList (Digits.plain x)

/-- What the selector selects from a text. -/
def select (s : CompiledXPath) (text : String) : Option Json :=
  match Xml.Document.ofText? text with
  | none => none
  | some d =>
      match s.expr.evalDocument s.spaces d with
      | (tree, some (.nodes set)) =>
          match set.map fun n => Json.str (tree.textOf n) with
          | [] => none
          | [one] => some one
          | several => some (.arr several)
      | (_, some (.text t)) => some (.str t)
      | (_, some (.bool b)) => some (.str (if b then "true" else "false"))
      | (_, some (.number x)) => some (.str (numberText (Double.ofFloat x)))
      | (_, none) => none

end CompiledXPath

end VirtualService
