/-
  VirtualService/Predicate/Compiled.lean
  ======================================
  **Predicates ready to be evaluated.**

  A list of predicates is compiled once, with every fault of a pattern, selector
  or script found then.  Evaluation goes from left to right and stops as soon as
  the outcome is known; the readings of texts made on the way are kept and passed
  on.

  `CompiledLeaf.evaluate` is `evaluate` of a compiled leaf, and `actual` with
  `accepts` its `evaluate_field`; `select` and `queried` are `select` and
  `query_json`.  Composite predicates are compiled and evaluated as the service's
  `PredicateTree` does.
-/
import VirtualService.Predicate.Comparison
import VirtualService.Request
import VirtualService.Script.Eval

namespace VirtualService

/-- A compiled leaf. -/
structure CompiledLeaf where
  operator : Operator
  fields : List (String × Expected)
  options : CompiledOptions

/-- A compiled predicate. -/
inductive CompiledPredicate where
  | leaf (l : CompiledLeaf)
  | allOf (children : List CompiledPredicate)
  | anyOf (children : List CompiledPredicate)
  | negation (child : CompiledPredicate)
  | script (program : Script.Program)

/-- The predicates of a stub, all of which must hold. -/
abbrev PredicateTree := List CompiledPredicate

/-! ### Compilation -/

def CompiledLeaf.compile (operator : Operator) (fields : Dict Json) (options : PredicateOptions) :
    Except DefinitionError CompiledLeaf := do
  let compiled ← options.compile
  let expected ← Expected.compileMembers operator compiled.normalizer fields
  return ⟨operator, expected, compiled⟩

namespace CompiledPredicate

/-- A compiled script; `scripts` says whether there is an injector, so that scripts may decide at all.
    Of injectors there is one, with the language of `Script.Program`. -/
def compileScript (scripts : Bool) (source : String) : Except DefinitionError CompiledPredicate :=
  if scripts then
    match Script.Program.ofText? source with
    | some program => .ok (.script program)
    | none => .error (.invalidInject .malformed)
  else .error .injectionDisabled

mutual

def compile (scripts : Bool) : Predicate → Except DefinitionError CompiledPredicate
  | .leaf operator fields options => (CompiledLeaf.compile operator fields options).map .leaf
  | .allOf children => (compileAll scripts children).map .allOf
  | .anyOf children => (compileAll scripts children).map .anyOf
  | .negation child => (compile scripts child).map .negation
  | .script source => compileScript scripts source

def compileAll (scripts : Bool) : List Predicate → Except DefinitionError (List CompiledPredicate)
  | [] => .ok []
  | p :: ps => do
      let c ← compile scripts p
      let cs ← compileAll scripts ps
      return c :: cs

end

end CompiledPredicate

/-! ### Evaluation -/

namespace CompiledLeaf

def comparison (l : CompiledLeaf) : Comparison :=
  ⟨TextRelation.ofOperator l.operator, l.options.normalizer, l.options.keyMatch⟩

/-- What a query finds: nothing, the one value, or an array of several. -/
def queried (query : JsonPath.Query) (document : Json) : Option Json :=
  match query.find document with
  | [] => none
  | [one] => some one
  | several => some (.arr several)

/-- What a selector selects from the value of a field. -/
def select (s : CompiledSelector) (name : String) (value : Json) (kept : Readings) :
    Option Json × Readings :=
  match s, value with
  | .jsonPath query, .str text =>
      let (reading, kept) := kept.interpret name text
      (reading.bind (queried query), kept)
  | .jsonPath query, structured => (queried query structured, kept)
  | .xpath selector, .str text => (selector.select text, kept)
  | .xpath _, _ => (none, kept)

/-- The value of a field that the leaf compares. -/
def actual (l : CompiledLeaf) (request : Request) (name : String) (expected : Expected)
    (kept : Readings) : Option Json × Readings :=
  match l.options.keyMatch.find? request name, l.options.selector with
  | none, _ => (none, kept)
  | some value, some selector => select selector name value kept
  | some (.str text), none =>
      if expected.isStructured then
        let (reading, kept) := kept.interpret name text
        (some (reading.getD (.str text)), kept)
      else (some (.str text), kept)
  | some value, none => (some value, kept)

/-- Whether an actual value, which may be absent, is as expected. -/
def accepts (l : CompiledLeaf) (expected : Expected) (actual : Option Json) : Bool :=
  match l.operator with
  | .presence => Comparison.present l.options.keyMatch expected actual
  | .deepEquals => actual.any fun value => l.comparison.deepEqual expected value
  | _ => actual.any fun value => l.comparison.satisfies expected value

/-- Some fields in order, until one is not as expected. -/
def evaluateFields (l : CompiledLeaf) (request : Request) :
    List (String × Expected) → Readings → Bool × Readings
  | [], kept => (true, kept)
  | (name, expected) :: fields, kept =>
      let (value, kept) := l.actual request name expected kept
      if l.accepts expected value then evaluateFields l request fields kept else (false, kept)

/-- Every named field is as expected. -/
def evaluate (l : CompiledLeaf) (request : Request) (kept : Readings) : Bool × Readings :=
  l.evaluateFields request l.fields kept

end CompiledLeaf

namespace CompiledPredicate

mutual

/-- Whether a predicate holds of a request, and the readings kept.  A script that fails does not
    hold. -/
def evaluate (request : Request) : CompiledPredicate → Readings → Bool × Readings
  | .leaf l, kept => l.evaluate request kept
  | .allOf children, kept => evaluateAll request children kept
  | .anyOf children, kept => evaluateAny request children kept
  | .negation child, kept =>
      let (holds, kept) := evaluate request child kept
      (!holds, kept)
  | .script program, kept =>
      match program.decide request with
      | .ok holds => (holds, kept)
      | .error _ => (false, kept)

def evaluateAll (request : Request) : List CompiledPredicate → Readings → Bool × Readings
  | [], kept => (true, kept)
  | p :: ps, kept =>
      let (holds, kept) := evaluate request p kept
      if holds then evaluateAll request ps kept else (false, kept)

def evaluateAny (request : Request) : List CompiledPredicate → Readings → Bool × Readings
  | [], kept => (false, kept)
  | p :: ps, kept =>
      let (holds, kept) := evaluate request p kept
      if holds then (true, kept) else evaluateAny request ps kept

end

end CompiledPredicate

namespace PredicateTree

/-- The compiled form of a list of predicates, or the first fault in it. -/
def compile (scripts : Bool) (predicates : List Predicate) : Except DefinitionError PredicateTree :=
  CompiledPredicate.compileAll scripts predicates

/-- Whether all predicates hold of a request. -/
def evaluate (tree : PredicateTree) (request : Request) (kept : Readings) : Bool × Readings :=
  CompiledPredicate.evaluateAll request tree kept

end PredicateTree

end VirtualService
