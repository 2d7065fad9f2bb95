/-
  VirtualService/Stub/Store.lean
  ==============================
  **The stubs of an imposter.**

  A store lists its stubs in order.  Each stub has an identity that no other stub
  ever has, and a cell that holds its state.  Cells are never taken away, so a list
  of stubs that someone has kept still shows their states.  A request is answered
  by the first stub that recognises it.

  `Store.resolve` is `resolve` of the `StubStore`: `firstMatch` is its search and
  `answerFrom` what it does with a match.  `statistics` is its `stats`, `find?`
  its `get`.
-/
import VirtualService.Predicate.Compiled
import VirtualService.Stub.State

namespace VirtualService

/-- A stub of a store. -/
structure Stub where
  id : Nat
  definition : StubDefinition
  /-- The compiled predicates of the definition. -/
  tree : PredicateTree
  /-- The number of the cell with the state. -/
  cell : Nat

/-- A list of stubs and their states. -/
structure Store where
  stubs : List Stub
  /-- The identity that is given out next.  The service counts in a word of 64 bits; that it may wrap
      after `2^64` identities is set aside. -/
  nextId : Nat
  cells : List StubState
  /-- Scripts may decide: there is an injector, for the language of `Script.Program`. -/
  scripts : Bool

/-- The stub that answers a request, and the response that is its turn. -/
structure Selection where
  stub : Stub
  place : Nat
  response : ResponseDefinition

/-- The figures of a stub. -/
structure StubStatistics where
  id : Nat
  matched : Nat
  responses : Nat
  next : Nat
deriving DecidableEq, Repr

namespace Stub

/-- How many responses there are, as the cursor counts them. -/
def responseCount (s : Stub) : UInt32 := UInt32.ofNat (min s.definition.responses.length 4294967295)

/-- How often in a row the response at a place is served, if that is said. -/
def repeatsAt (s : Stub) (place : UInt32) : Option UInt32 :=
  (s.definition.responses[place.toNat]?).bind ResponseDefinition.repeats

end Stub

namespace Store

/-- A store without stubs. -/
def empty (scripts : Bool) : Store := ⟨[], 0, [], scripts⟩

/-! ### States -/

/-- The state in a cell. -/
def stateAt (s : Store) (cell : Nat) : StubState := (s.cells[cell]?).getD .initial

/-- Change the state in a cell. -/
def modifyState (s : Store) (cell : Nat) (f : StubState → StubState) : Store :=
  { s with cells := s.cells.modify cell f }

/-- The stub of an identity. -/
def find? (s : Store) (id : Nat) : Option Stub := s.stubs.find? fun stub => stub.id = id

/-- The figures of a stub. -/
def statisticsOf (s : Store) (stub : Stub) : StubStatistics :=
  let state := s.stateAt stub.cell
  ⟨stub.id, state.matched, stub.definition.responses.length,
    (state.cursor.peek stub.responseCount).toNat⟩

/-- The figures of all stubs, in order. -/
def statistics (s : Store) : List StubStatistics := s.stubs.map s.statisticsOf

/-! ### Answering requests -/

/-- The first stub that recognises a request; the readings of texts are shared among the stubs. -/
def firstMatch (request : Request) : List Stub → Readings → Option Stub
  | [], _ => none
  | stub :: stubs, kept =>
      let (holds, kept) := stub.tree.evaluate request kept
      if holds then some stub else firstMatch request stubs kept

/-- Answer from a stub that has matched: count the match, select the response whose turn it is and
    move the cursor past it.  A stub without responses only counts. -/
def answerFrom (s : Store) (stub : Stub) : Option Selection × Store :=
  let counted := s.modifyState stub.cell StubState.countMatch
  match stub.definition.responses with
  | [] => (none, counted)
  | first :: rest =>
      let cursor := (s.stateAt stub.cell).cursor
      let (place, moved) := cursor.select stub.responseCount stub.repeatsAt
      let response := (first :: rest).getD place.toNat first
      (some ⟨stub, place.toNat, response⟩,
        counted.modifyState stub.cell fun state => { state with cursor := moved })

/-- Answer a request from the first stub that recognises it. -/
def resolve (s : Store) (request : Request) : Option Selection × Store :=
  match firstMatch request s.stubs [] with
  | none => (none, s)
  | some stub => s.answerFrom stub

end Store

end VirtualService
