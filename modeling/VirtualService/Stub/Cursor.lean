/-
  VirtualService/Stub/Cursor.lean
  ===============================
  **Which response comes next.**

  A cursor is one word of 64 bits: the place of the response in the upper half,
  and how often it has been served in the lower.  Each response is served as often
  in a row as it asks for, and after the last comes the first again.  A place
  beyond the responses there are counts as the first.

  `Cursor.select` is `select_and_advance` of the `ResponseCycler`, here for one
  caller at a time, and `Cursor.peek` its `peek`; `Position.pack`, `Cursor.unpack`
  and `Position.next` are `pack`, `unpack` and `next` of its `Position`.
-/

namespace VirtualService

/-- The place of a response and how often it has been served in a row. -/
structure Position where
  place : UInt32
  served : UInt32
deriving DecidableEq, Repr, Inhabited

/-- A position in one word. -/
structure Cursor where
  word : UInt64
deriving DecidableEq, Repr, Inhabited

namespace Position

def pack (p : Position) : Cursor := ⟨p.place.toUInt64 <<< 32 ||| p.served.toUInt64⟩

/-- The start: the first response, not yet served. -/
def start : Position := ⟨0, 0⟩

/-- The position after serving the response there once more. -/
def next (p : Position) (count repeats : UInt32) : Position :=
  let served := if p.served = 4294967295 then p.served else p.served + 1
  if served < repeats then { p with served := served }
  else
    let place := p.place + 1
    ⟨if place ≥ count then 0 else place, 0⟩

end Position

namespace Cursor

def unpack (c : Cursor) : Position := ⟨(c.word >>> 32).toUInt32, c.word.toUInt32⟩

/-- The cursor of a stub that has not been asked yet. -/
def initial : Cursor := ⟨0⟩

/-- The position within a number of responses. -/
def within (c : Cursor) (count : UInt32) : Position :=
  if c.unpack.place ≥ count then .start else c.unpack

/-- The place that will be selected next. -/
def peek (c : Cursor) (count : UInt32) : UInt32 := (c.within count).place

/-- How often in a row a response is served: once if nothing or zero is said. -/
def timesOf (repeats : Option UInt32) : UInt32 := max (repeats.getD 1) 1

/-- Select the response to serve, and move past it.  Without responses nothing moves. -/
def select (c : Cursor) (count : UInt32) (repeats : UInt32 → Option UInt32) : UInt32 × Cursor :=
  if count = 0 then (0, c)
  else
    let p := c.within count
    (p.place, (p.next count (timesOf (repeats p.place))).pack)

end Cursor

end VirtualService
