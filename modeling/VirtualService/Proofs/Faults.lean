/-
  VirtualService/Proofs/Faults.lean
  =================================
  **What keeps predicates from being compiled.**

  Compilation stops at the first fault and says nothing of those after it.  A walk
  over the authored predicates finds them all, at any depth and in the order of
  reading (`Predicate.faults`): parameters before fields, a part before the parts
  after it.  Compilation fails exactly if the walk finds a fault, and then with the
  first (`CompiledPredicate.compile_fault`).  The proof goes along the constructors
  of predicates and of expected values; a sequence of compilations has the faults of
  the first before those of the rest (`Except.fault?_bind`).
-/
import VirtualService.Proofs.Recognition
import VirtualService.Stub.Command

namespace VirtualService

/-! ### The fault of a computation -/

section Computations

variable {ε α β : Type} {x : Except ε α}

def Except.fault? : Except ε α → Option ε
  | .error e => some e
  | .ok _ => none

theorem Except.fault?_eq_some {e : ε} : Except.fault? x = some e ↔ x = .error e := by
  cases x <;> simp [Except.fault?]

theorem Except.fault?_eq_none : Except.fault? x = none ↔ ∃ a, x = .ok a := by
  cases x <;> simp [Except.fault?]

theorem Except.fault?_map (f : α → β) : Except.fault? (x.map f) = Except.fault? x := by
  cases x <;> rfl

/-- What comes after a computation is only asked where the computation has no fault. -/
theorem Except.fault?_bind {f : α → Except ε β} {later : Option ε}
    (next : ∀ a, Except.fault? (f a) = later) :
    Except.fault? (x >>= f) = (Except.fault? x).or later := by
  cases x with
  | error e => rfl
  | ok a => exact next a

/-- Something that has no fault of its own may follow. -/
theorem Except.fault?_bind_ok (f : α → β) :
    Except.fault? (x >>= fun a => .ok (f a)) = Except.fault? x := by
  cases x <;> rfl

end Computations

/-! ### The faults that there are -/

/-- The faults of parameters: of the pattern that excludes, and of the selector. -/
def PredicateOptions.faults (o : PredicateOptions) : List DefinitionError :=
  (Except.fault? o.excluded).toList ++ (Except.fault? o.selector).toList

namespace Expected

/-- A scalar has a fault where presence is asked for by something other than a truth value, or where
    a pattern is none. -/
def scalarFaults (operator : Operator) (caseSensitive : Bool) (value : Json) :
    List DefinitionError :=
  match operator, value with
  | .presence, .bool _ => []
  | .presence, other => [.invalidPredicate (.presenceNotFlag other)]
  | .matching, value =>
      match Regex.compile? value.plainText (!caseSensitive) with
      | some _ => []
      | none => [.invalidRegex value.plainText]
  | _, _ => []

mutual

/-- The faults of what an operator is to expect. -/
def faults (operator : Operator) (caseSensitive : Bool) : Json → List DefinitionError
  | .obj entries => faultsMembers operator caseSensitive entries
  | .arr parts =>
      if operator = .presence then [.invalidPredicate .presenceOfArray]
      else faultsItems operator caseSensitive parts
  | .null => scalarFaults operator caseSensitive .null
  | .bool b => scalarFaults operator caseSensitive (.bool b)
  | .num x => scalarFaults operator caseSensitive (.num x)
  | .str s => scalarFaults operator caseSensitive (.str s)

def faultsItems (operator : Operator) (caseSensitive : Bool) : List Json → List DefinitionError
  | [] => []
  | part :: parts => faults operator caseSensitive part ++ faultsItems operator caseSensitive parts

def faultsMembers (operator : Operator) (caseSensitive : Bool) :
    List (String × Json) → List DefinitionError
  | [] => []
  | (_, value) :: entries =>
      faults operator caseSensitive value ++ faultsMembers operator caseSensitive entries

end

end Expected

namespace Predicate

/-- A script has a fault where scripts may not decide, or if it cannot be read. -/
def scriptFaults (scripts : Bool) (source : String) : List DefinitionError :=
  if scripts then
    match Script.Program.ofText? source with
    | some _ => []
    | none => [.invalidInject .malformed]
  else [.injectionDisabled]

mutual

/-- The faults of a predicate, in the order of reading. -/
def faults (scripts : Bool) : Predicate → List DefinitionError
  | .leaf operator fields options =>
      options.faults ++ Expected.faultsMembers operator options.caseSensitive fields
  | .allOf children => faultsAll scripts children
  | .anyOf children => faultsAll scripts children
  | .negation child => faults scripts child
  | .script source => scriptFaults scripts source

def faultsAll (scripts : Bool) : List Predicate → List DefinitionError
  | [] => []
  | p :: ps => faults scripts p ++ faultsAll scripts ps

end

end Predicate

/-- The faults of the predicates of a stub. -/
def StubDefinition.faults (scripts : Bool) (d : StubDefinition) : List DefinitionError :=
  Predicate.faultsAll scripts d.predicates

/-! ### Compilation stops at the first -/

theorem PredicateOptions.compile_fault (o : PredicateOptions) :
    Except.fault? o.compile = o.faults.head? := by
  rw [PredicateOptions.faults, List.head?_append, Option.head?_toList, Option.head?_toList]
  exact Except.fault?_bind fun _ => Except.fault?_bind_ok _

namespace Expected

theorem ofScalar_fault (operator : Operator) (n : Normalizer) (value : Json) :
    Except.fault? (ofScalar operator n value) =
      (scalarFaults operator n.caseSensitive value).head? := by
  cases operator with
  | presence => cases value <;> rfl
  | matching =>
    simp only [ofScalar, scalarFaults]
    cases Regex.compile? value.plainText (!n.caseSensitive) <;> rfl
  | _ => rfl

mutual

theorem compile_fault (operator : Operator) (n : Normalizer) : ∀ j : Json,
    Except.fault? (compile operator n j) = (faults operator n.caseSensitive j).head?
  | .obj entries => by
      rw [compile, Except.fault?_map, faults]
      exact compileMembers_fault operator n entries
  | .arr parts => by
      rw [compile, faults]
      split
      · rfl
      · rw [Except.fault?_map]
        exact compileItems_fault operator n parts
  | .null => by rw [compile, faults]; exact ofScalar_fault operator n .null
  | .bool b => by rw [compile, faults]; exact ofScalar_fault operator n (.bool b)
  | .num x => by rw [compile, faults]; exact ofScalar_fault operator n (.num x)
  | .str s => by rw [compile, faults]; exact ofScalar_fault operator n (.str s)

theorem compileItems_fault (operator : Operator) (n : Normalizer) : ∀ parts : List Json,
    Except.fault? (compileItems operator n parts) =
      (faultsItems operator n.caseSensitive parts).head?
  | [] => rfl
  | part :: parts => by
      rw [faultsItems, List.head?_append, ← compile_fault operator n part,
        ← compileItems_fault operator n parts]
      exact Except.fault?_bind fun _ => Except.fault?_bind_ok _

theorem compileMembers_fault (operator : Operator) (n : Normalizer) :
    ∀ entries : List (String × Json), Except.fault? (compileMembers operator n entries) =
      (faultsMembers operator n.caseSensitive entries).head?
  | [] => rfl
  | (_, value) :: entries => by
      rw [faultsMembers, List.head?_append, ← compile_fault operator n value,
        ← compileMembers_fault operator n entries]
      exact Except.fault?_bind fun _ => Except.fault?_bind_ok _

end

end Expected

theorem CompiledLeaf.compile_fault (operator : Operator) (fields : Dict Json)
    (o : PredicateOptions) : Except.fault? (CompiledLeaf.compile operator fields o) =
      (o.faults ++ Expected.faultsMembers operator o.caseSensitive fields).head? := by
  rw [List.head?_append, ← o.compile_fault, CompiledLeaf.compile]
  cases compiled : o.compile with
  | error e => rfl
  | ok options =>
    -- what is expected is compiled with the case of the parameters as they were authored
    obtain ⟨excluded, selector, -, -, rfl⟩ := PredicateOptions.compile_eq_ok.mp compiled
    exact (Except.fault?_bind_ok _).trans (Expected.compileMembers_fault operator _ fields)

namespace CompiledPredicate

theorem compileScript_fault (scripts : Bool) (source : String) :
    Except.fault? (compileScript scripts source) = (Predicate.scriptFaults scripts source).head? := by
  rw [compileScript, Predicate.scriptFaults]
  split
  · cases Script.Program.ofText? source <;> rfl
  · rfl

mutual

theorem compile_fault (scripts : Bool) : ∀ p : Predicate,
    Except.fault? (compile scripts p) = (p.faults scripts).head?
  | .leaf operator fields options => by
      rw [compile, Except.fault?_map, Predicate.faults]
      exact CompiledLeaf.compile_fault operator fields options
  | .allOf children => by
      rw [compile, Except.fault?_map, Predicate.faults]
      exact compileAll_fault scripts children
  | .anyOf children => by
      rw [compile, Except.fault?_map, Predicate.faults]
      exact compileAll_fault scripts children
  | .negation child => by
      rw [compile, Except.fault?_map, Predicate.faults]
      exact compile_fault scripts child
  | .script source => by
      rw [compile, Predicate.faults]
      exact compileScript_fault scripts source

theorem compileAll_fault (scripts : Bool) : ∀ ps : List Predicate,
    Except.fault? (compileAll scripts ps) = (Predicate.faultsAll scripts ps).head?
  | [] => rfl
  | p :: ps => by
      rw [Predicate.faultsAll, List.head?_append, ← compile_fault scripts p,
        ← compileAll_fault scripts ps]
      exact Except.fault?_bind fun _ => Except.fault?_bind_ok _

end

end CompiledPredicate

namespace StubDefinition

variable {scripts : Bool} {d : StubDefinition}

/-- The predicates of a stub fail to compile with the first of their faults. -/
theorem compile_eq_error {cause : DefinitionError} :
    PredicateTree.compile scripts d.predicates = .error cause ↔
      (d.faults scripts).head? = some cause := by
  rw [faults, ← CompiledPredicate.compileAll_fault, Except.fault?_eq_some]
  rfl

theorem compile_eq_ok :
    (∃ tree, PredicateTree.compile scripts d.predicates = .ok tree) ↔ d.faults scripts = [] := by
  rw [← List.head?_eq_none_iff, faults, ← CompiledPredicate.compileAll_fault,
    Except.fault?_eq_none]
  rfl

end StubDefinition

end VirtualService
