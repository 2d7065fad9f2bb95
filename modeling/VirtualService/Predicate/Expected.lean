/-
  VirtualService/Predicate/Expected.lean
  ======================================
  **What a leaf expects of a field.**

  The expected value keeps the shape of the authored one.  Its scalars are put
  into their normal form once, when the leaf is compiled: texts are normalized,
  patterns compiled, and a test for presence holds a truth value.

  `Expected.compile` is `compile_expected`, and `PredicateOptions.compile` is
  `compile` of the options.
-/
import VirtualService.Predicate.Normal
import VirtualService.DefinitionError
import VirtualService.JsonPath.Parser
import VirtualService.JsonPath.Select
import VirtualService.XPath.Selector

namespace VirtualService

/-! ### Compiled parameters -/

/-- A compiled selector of part of a field. -/
inductive CompiledSelector where
  | jsonPath (query : JsonPath.Query)
  | xpath (selector : CompiledXPath)

/-- Parameters in the form in which a leaf uses them. -/
structure CompiledOptions where
  keyMatch : KeyMatch
  normalizer : Normalizer
  selector : Option CompiledSelector

namespace PredicateOptions

/-- The pattern of what is excluded; it ignores case unless case counts. -/
def excluded (o : PredicateOptions) : Except DefinitionError (Option Regex) :=
  if o.exceptPattern.isEmpty then .ok none
  else match Regex.compile? o.exceptPattern (!o.caseSensitive) with
    | some pattern => .ok (some pattern)
    | none => .error (.invalidRegex o.exceptPattern)

/-- The selector; a JSONPath goes before an XPath. -/
def selector (o : PredicateOptions) : Except DefinitionError (Option CompiledSelector) :=
  match o.jsonPath, o.xpath with
  | some path, _ =>
      match JsonPath.Query.ofText? path with
      | some query => .ok (some (.jsonPath query))
      | none => .error (.invalidJsonPath path)
  | none, some path => (CompiledXPath.compile path).map fun x => some (.xpath x)
  | none, none => .ok none

def compile (o : PredicateOptions) : Except DefinitionError CompiledOptions := do
  let excluded ← o.excluded
  let selector ← o.selector
  return ⟨o.keyMatch, ⟨o.caseSensitive, excluded⟩, selector⟩

end PredicateOptions

/-! ### Expected values -/

/-- An expected scalar: a text in normal form, a pattern, or whether something is there. -/
inductive ExpectedScalar where
  | text (normal : String)
  | pattern (regex : Regex)
  | presence (flag : Bool)

inductive Expected where
  | scalar (value : ExpectedScalar)
  | items (children : List Expected)
  | members (entries : List (String × Expected))

namespace Expected

/-- Arrays and objects. -/
def isStructured : Expected → Bool
  | scalar _ => false
  | _ => true

/-- The expected scalar that an operator makes of an authored one. -/
def ofScalar (operator : Operator) (n : Normalizer) (value : Json) :
    Except DefinitionError Expected :=
  match operator with
  | .presence =>
      match value with
      | .bool flag => .ok (.scalar (.presence flag))
      | other => .error (.invalidPredicate (.presenceNotFlag other))
  | .matching =>
      match Regex.compile? value.plainText (!n.caseSensitive) with
      | some regex => .ok (.scalar (.pattern regex))
      | none => .error (.invalidRegex value.plainText)
  | _ => .ok (.scalar (.text (n.normal value.plainText)))

mutual

/-- The expected value that an operator makes of an authored one. -/
def compile (operator : Operator) (n : Normalizer) : Json → Except DefinitionError Expected
  | .obj entries => (compileMembers operator n entries).map .members
  | .arr parts =>
      if operator = .presence then .error (.invalidPredicate .presenceOfArray)
      else (compileItems operator n parts).map .items
  | .null => ofScalar operator n .null
  | .bool b => ofScalar operator n (.bool b)
  | .num x => ofScalar operator n (.num x)
  | .str s => ofScalar operator n (.str s)

def compileItems (operator : Operator) (n : Normalizer) :
    List Json → Except DefinitionError (List Expected)
  | [] => .ok []
  | part :: parts => do
      let e ← compile operator n part
      let es ← compileItems operator n parts
      return e :: es

def compileMembers (operator : Operator) (n : Normalizer) :
    List (String × Json) → Except DefinitionError (List (String × Expected))
  | [] => .ok []
  | (key, value) :: entries => do
      let e ← compile operator n value
      let es ← compileMembers operator n entries
      return (key, e) :: es

end

end Expected

end VirtualService
