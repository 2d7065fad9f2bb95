/-
  VirtualService/Predicate/Codec.lean
  ===================================
  **The written form of predicates.**

  A predicate is an object with exactly one operator key beside its parameters.
  Reading and writing are inverse on what is read: writing keeps the operator,
  the fields and the nesting, and leaves out parameters that have their default.

  `Predicate.decode` is `from_json`, `Predicate.encode` is `to_json`, and
  `Operator.ofKey?` is `from_key`.
-/
import VirtualService.DefinitionError
import VirtualService.Predicate.Definition

namespace VirtualService

/-- An operator by its key. -/
def Operator.decode : Decoder Operator :=
  Decoder.word (Operator.all.map fun operator => (operator.key, operator))

/-! ### Parameters -/

namespace XPathSelector

def encode (s : XPathSelector) : Json :=
  .ofPairs (("selector", .str s.selector) ::
    match s.namespaces with
    | none => []
    | some ns => [("ns", .obj ns)])

def decode : Decoder XPathSelector := fun j => do
  let fields ← Fields.ofJson "XPathSelector" ["selector", "ns"] j
  let selector := fields.read "selector" Decoder.text
  let ns := fields.read "ns" (Decoder.option Decoder.map)
  fields.firstFault [Fields.fault "selector" selector, Fields.fault "ns" ns]
  let selector ← fields.require "selector" (← selector)
  let ns ← ns
  fields.finish
  return ⟨selector, ns.join⟩

end XPathSelector

namespace PredicateOptions

/-- A JSONPath selector is written as an object with one member. -/
def encodePath (selector : String) : Json := .obj [("selector", .str selector)]

def decodePath : Decoder String := fun j => do
  let fields ← Fields.ofJson "JsonPathSelector" ["selector"] j
  let selector ← fields.read "selector" Decoder.text
  let selector ← fields.require "selector" selector
  fields.finish
  return selector

/-- The members that write the parameters. -/
def members (o : PredicateOptions) : List (String × Json) :=
  (if o.caseSensitive then [("caseSensitive", .bool true)] else []) ++
  (match o.keyCaseSensitive with
    | none => []
    | some b => [("keyCaseSensitive", .bool b)]) ++
  (if o.exceptPattern.isEmpty then [] else [("except", .str o.exceptPattern)]) ++
  (match o.jsonPath with
    | none => []
    | some path => [("jsonpath", encodePath path)]) ++
  (match o.xpath with
    | none => []
    | some path => [("xpath", path.encode)])

def encode (o : PredicateOptions) : Json := .ofPairs o.members

/-- The parameters among the fields of a record. -/
def ofFields (fields : Fields) : Except DecodeError PredicateOptions := do
  let caseSensitive := fields.read "caseSensitive" Decoder.bool
  let keyCaseSensitive := fields.read "keyCaseSensitive" (Decoder.option Decoder.bool)
  let exceptPattern := fields.read "except" Decoder.text
  let jsonPath := fields.read "jsonpath" (Decoder.option decodePath)
  let xpath := fields.read "xpath" (Decoder.option XPathSelector.decode)
  fields.firstFault
    [Fields.fault "caseSensitive" caseSensitive,
     Fields.fault "keyCaseSensitive" keyCaseSensitive,
     Fields.fault "except" exceptPattern,
     Fields.fault "jsonpath" jsonPath,
     Fields.fault "xpath" xpath]
  return {
    caseSensitive := (← caseSensitive).getD false
    keyCaseSensitive := (← keyCaseSensitive).join
    exceptPattern := (← exceptPattern).getD ""
    jsonPath := (← jsonPath).join
    xpath := (← xpath).join }

/-- The keys of the parameters. -/
def keys : List String := ["caseSensitive", "keyCaseSensitive", "except", "jsonpath", "xpath"]

def decode : Decoder PredicateOptions := fun j => do
  let fields ← Fields.ofJson "PredicateOptions" keys j
  let options ← ofFields fields
  fields.finish
  return options

end PredicateOptions

/-! ### Predicates -/

namespace Predicate

/-- A leaf without parameters. -/
def ofFields (operator : Operator) (fields : Json) : Except DefinitionError Predicate :=
  match fields with
  | .obj fields => .ok (.leaf operator fields .default)
  | other => .error (.invalidPredicate (.fieldsWrong operator.key other))

mutual

def encode : Predicate → Json
  | .leaf operator fields options => .ofPairs ((operator.key, .obj fields) :: options.members)
  | .allOf children => .obj [("and", .arr (encodeAll children))]
  | .anyOf children => .obj [("or", .arr (encodeAll children))]
  | .negation child => .obj [("not", encode child)]
  | .script source => .obj [("inject", .str source)]

def encodeAll : List Predicate → List Json
  | [] => []
  | p :: ps => encode p :: encodeAll ps

end

/-- A member that is no parameter: its key, its value, and the readings of the value as a predicate
    and as an array of predicates. -/
structure Operand where
  key : String
  body : Json
  asPredicate : Unit → Except DefinitionError Predicate
  asArray : Unit → Option (Except DefinitionError (List Predicate))

/-- The parameters among the members of a predicate. -/
def parameters (members : Dict Json) : Dict Json :=
  members.filter fun entry => PredicateOptions.keys.contains entry.1

/-- A leaf from its operator key, its value and its parameters. -/
def leafOf (key : String) (body : Json) (given : Dict Json) : Except DefinitionError Predicate :=
  match Operator.ofKey? key, body with
  | none, _ => .error (.unknownOperator key)
  | some operator, .obj fields =>
      match PredicateOptions.decode (.obj given) with
      | .ok options => .ok (.leaf operator fields options)
      | .error cause => .error (.invalidPredicate (.parameters cause))
  | some operator, _ => .error (.invalidPredicate (.fieldsMissing operator.key))

/-- The keys of the operators that take no parameters. -/
def compositeKeys : List String := ["and", "or", "not", "inject"]

/-- The predicate that a single operand makes with the given parameters. -/
def ofOperand (given : Dict Json) (operand : Operand) : Except DefinitionError Predicate :=
  if compositeKeys.contains operand.key && !given.isEmpty then
    .error (.invalidPredicate (.parametersRefused operand.key))
  else match operand.key with
    | "and" => (array operand).map .allOf
    | "or" => (array operand).map .anyOf
    | "not" => (operand.asPredicate ()).map .negation
    | "inject" =>
        match operand.body with
        | .str source => .ok (.script source)
        | other => .error (.invalidInject (.notText other))
    | key => leafOf key operand.body given
where
  array (operand : Operand) : Except DefinitionError (List Predicate) :=
    (operand.asArray ()).getD (.error (.invalidPredicate (.notArray operand.key)))

/-- The predicate of the operands of an object, of which there must be exactly one. -/
def ofOperands (given : Dict Json) : List Operand → Except DefinitionError Predicate
  | [] => .error (.invalidPredicate .noOperator)
  | [operand] => ofOperand given operand
  | first :: second :: _ => .error (.invalidPredicate (.severalOperators first.key second.key))

mutual

/-- The predicate that a value writes. -/
def decode : Json → Except DefinitionError Predicate
  | .obj members => ofOperands (parameters members) (operands members)
  | .null => .error (.invalidPredicate (.notObject .null))
  | .bool b => .error (.invalidPredicate (.notObject (.bool b)))
  | .num n => .error (.invalidPredicate (.notObject (.num n)))
  | .str s => .error (.invalidPredicate (.notObject (.str s)))
  | .arr items => .error (.invalidPredicate (.notObject (.arr items)))

def decodeAll : List Json → Except DefinitionError (List Predicate)
  | [] => .ok []
  | item :: items => do
      let p ← decode item
      let ps ← decodeAll items
      return p :: ps

def decodeArray : Json → Option (Except DefinitionError (List Predicate))
  | .arr items => some (decodeAll items)
  | _ => none

/-- The members that are no parameters. -/
def operands : List (String × Json) → List Operand
  | [] => []
  | (key, body) :: rest =>
      if PredicateOptions.keys.contains key then operands rest
      else ⟨key, body, fun _ => decode body, fun _ => decodeArray body⟩ :: operands rest

end

/-- A predicate within a record. -/
def decoder : Decoder Predicate := fun j =>
  match decode j with
  | .ok p => .ok p
  | .error e => .error (.refused e.message)

end Predicate

end VirtualService
