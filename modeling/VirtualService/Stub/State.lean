/-
  VirtualService/Stub/State.lean
  ==============================
  **What a stub remembers.**

  A stub remembers which response comes next, how often it was the first to match,
  and the requests it answered.  This state belongs to the stub and not to its
  definition, so it outlives edits of the definition, and everyone who holds the
  stub sees the same state.

  These are the functions `count_match`, `record_match` and `clear_statistics` of
  the service's `StubState`.
-/
import VirtualService.Stub.Cursor
import VirtualService.Stub.Definition

namespace VirtualService

/-- The state of a stub. -/
structure StubState where
  cursor : Cursor
  /-- How often the stub was the first to match.  The service counts in a word of 64 bits; that it may
      wrap after `2^64` matches is set aside. -/
  matched : Nat
  records : List MatchRecord
deriving Repr, Inhabited

namespace StubState

def initial : StubState := ⟨.initial, 0, []⟩

def countMatch (s : StubState) : StubState := { s with matched := s.matched + 1 }

def record (s : StubState) (r : MatchRecord) : StubState := { s with records := s.records ++ [r] }

/-- Forget the statistics; the cursor stays where it is. -/
def clearStatistics (s : StubState) : StubState := { s with matched := 0, records := [] }

end StubState

end VirtualService
