/-
  VirtualService/Stub/Command.lean
  ================================
  **Edits of a store.**

  Every change of the list of stubs is a command.  The definitions that a command
  carries are compiled first, so a fault in one of them changes nothing but the
  identities used up; then the command finds its place in the list, or fails and
  leaves the list as it is.

  `Store.apply` is `apply` of the `StubStore`.  `enlist` and `enlistAll` are its
  `allocate_id` and `compile` in the order in which `prepare` calls them,
  `indexOf` is `index_of`, and `extended` is `with_appended` of a stub.
-/
import VirtualService.Stub.Store

namespace VirtualService

/-- A change of the list of stubs. -/
inductive StoreCommand where
  /-- A new stub at a position, or at the end. -/
  | insert (definition : StubDefinition) (position : Option Nat)
  | remove (id : Nat)
  | removeAt (index : Nat)
  /-- Another definition for a stub that keeps its identity and state. -/
  | replace (id : Nat) (definition : StubDefinition)
  | replaceAll (definitions : List StubDefinition)
  /-- A new stub directly before another. -/
  | record (before : Nat) (definition : StubDefinition)
  /-- More responses for the first stub after another with the same predicates, or a new stub
      directly after it. -/
  | append (after : Nat) (definition : StubDefinition)

/-- What a command has changed. -/
inductive StoreChange where
  | inserted (id : Nat)
  | removed (id : Nat)
  | replaced (id : Nat)
  | replacedAll (ids : List Nat)
  | appended (id : Nat)
deriving DecidableEq, Repr

/-- Why a command changes nothing. -/
inductive StoreError where
  | stubNotFound (id : Nat)
  | indexOutOfBounds (index : Nat)
  | definition (cause : DefinitionError)
deriving Repr

def StoreError.message : StoreError → String
  | stubNotFound id => "Stub " ++ (Number.int id).text ++ " not found"
  | indexOutOfBounds index => "Stub index " ++ (Number.int index).text ++ " out of bounds"
  | definition cause => cause.message

/-- The stub that a change concerns, if it concerns a single one. -/
def StoreChange.id? : StoreChange → Option Nat
  | inserted id => some id
  | removed id => some id
  | replaced id => some id
  | replacedAll _ => none
  | appended id => some id

namespace Store

/-! ### New stubs -/

/-- Make a stub of a definition, with a new identity and a new cell.  The identity is used up even if
    the definition has a fault.  Records in the definition are dropped. -/
def enlist (s : Store) (d : StubDefinition) : Except DefinitionError Stub × Store :=
  match PredicateTree.compile s.scripts d.predicates with
  | .error e => (.error e, { s with nextId := s.nextId + 1 })
  | .ok tree =>
      (.ok ⟨s.nextId, { d with records := [] }, tree, s.cells.length⟩,
        { s with nextId := s.nextId + 1, cells := s.cells ++ [.initial] })

/-- Make stubs of definitions in order, up to the first fault. -/
def enlistAll (s : Store) : List StubDefinition → Except DefinitionError (List Stub) × Store
  | [] => (.ok [], s)
  | d :: ds =>
      match s.enlist d with
      | (.error e, s) => (.error e, s)
      | (.ok stub, s) =>
          match s.enlistAll ds with
          | (.error e, s) => (.error e, s)
          | (.ok stubs, s) => (.ok (stub :: stubs), s)

/-! ### Edits of the list -/

/-- The position of a stub. -/
def indexOf (s : Store) (id : Nat) : Except StoreError Nat :=
  match s.stubs.findIdx? fun stub => stub.id = id with
  | some index => .ok index
  | none => .error (.stubNotFound id)

/-- A stub answers for the same predicates as a definition, of which there are some. -/
def hasPredicates (stub : Stub) (d : StubDefinition) : Bool :=
  !stub.definition.predicates.isEmpty && Predicate.sameAll stub.definition.predicates d.predicates

/-- A stub with more responses. -/
def extended (stub : Stub) (responses : List ResponseDefinition) : Stub :=
  { stub with definition :=
      { stub.definition with responses := stub.definition.responses ++ responses } }

/-- Apply a command.  Whatever the outcome, identities that were given out stay given out. -/
def apply (s : Store) (command : StoreCommand) : Except StoreError StoreChange × Store :=
  match command with
  | .insert d position =>
      match s.enlist d with
      | (.error e, s) => (.error (.definition e), s)
      | (.ok stub, s) =>
          let index := min (position.getD s.stubs.length) s.stubs.length
          (.ok (.inserted stub.id), { s with stubs := s.stubs.insertIdx index stub })
  | .remove id =>
      match s.indexOf id with
      | .error e => (.error e, s)
      | .ok index => (.ok (.removed id), { s with stubs := s.stubs.eraseIdx index })
  | .removeAt index =>
      match s.stubs[index]? with
      | none => (.error (.indexOutOfBounds index), s)
      | some stub => (.ok (.removed stub.id), { s with stubs := s.stubs.eraseIdx index })
  | .replace id d =>
      match PredicateTree.compile s.scripts d.predicates with
      | .error e => (.error (.definition e), s)
      | .ok tree =>
          match s.indexOf id with
          | .error e => (.error e, s)
          | .ok index =>
              let changed (stub : Stub) : Stub :=
                { stub with definition := { d with records := [] }, tree := tree }
              (.ok (.replaced id), { s with stubs := s.stubs.modify index changed })
  | .replaceAll ds =>
      match s.enlistAll ds with
      | (.error e, s) => (.error (.definition e), s)
      | (.ok stubs, s) => (.ok (.replacedAll (stubs.map Stub.id)), { s with stubs := stubs })
  | .record before d =>
      match s.enlist d with
      | (.error e, s) => (.error (.definition e), s)
      | (.ok stub, s) =>
          match s.indexOf before with
          | .error e => (.error e, s)
          | .ok index => (.ok (.inserted stub.id), { s with stubs := s.stubs.insertIdx index stub })
  | .append after d =>
      match s.enlist d with
      | (.error e, s) => (.error (.definition e), s)
      | (.ok stub, s) =>
          match s.indexOf after with
          | .error e => (.error e, s)
          | .ok index =>
              match (s.stubs.drop (index + 1)).find? fun other => hasPredicates other d with
              | some other =>
                  let place := index + 1 +
                    (s.stubs.drop (index + 1)).findIdx fun other => hasPredicates other d
                  (.ok (.appended other.id),
                    { s with stubs := s.stubs.modify place fun other => extended other d.responses })
              | none =>
                  (.ok (.inserted stub.id), { s with stubs := s.stubs.insertIdx (index + 1) stub })

/-! ### Statistics -/

/-- Forget the statistics of a stub; false if there is no such stub. -/
def clearStatistics (s : Store) (id : Nat) : Bool × Store :=
  match s.find? id with
  | some stub => (true, s.modifyState stub.cell StubState.clearStatistics)
  | none => (false, s)

end Store

end VirtualService
