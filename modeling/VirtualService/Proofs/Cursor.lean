/-
  VirtualService/Proofs/Cursor.lean
  =================================
  **A cursor stays within its word and within the responses.**

  A position and the word that it is packed into are two spellings of the same thing
  (`Cursor.pack_unpack`).  One step of a position that lies within the responses is
  the step that is taken in natural numbers (`Position.next_natural`): the number of
  times served stops at the greatest word, and the place is below the number of
  responses before it is counted on, so neither addition wraps.  Nothing is asked of
  the word before: edits leave cursors where they are, so a stub may find its cursor
  beyond a shorter list of responses, or with a count that belongs to another one.
-/
import VirtualService.Proofs.Pending

namespace VirtualService

/-! ### The word and its halves -/

namespace Cursor

theorem place_unpack (c : Cursor) : c.unpack.place.toNat = c.word.toNat / 4294967296 := by
  have word := c.word.toNat_lt
  have half : c.word.toNat / 4294967296 < 4294967296 := by omega
  rw [unpack, UInt64.toNat_toUInt32, UInt64.toNat_shiftRight]
  simpa [Nat.shiftRight_eq_div_pow] using Nat.mod_eq_of_lt half

theorem served_unpack (c : Cursor) : c.unpack.served.toNat = c.word.toNat % 4294967296 := by
  rw [unpack, UInt64.toNat_toUInt32]

theorem pack_unpack (c : Cursor) : c.unpack.pack = c := by
  have word : c.unpack.pack.word = c.word := by
    apply UInt64.toNat_inj.mp
    rw [Position.word_pack, place_unpack, served_unpack]
    omega
  exact congrArg Cursor.mk word

end Cursor

/-! ### One step, in words and in natural numbers -/

namespace Position

/-- The position after serving a response once more, in numbers that have no end; only the number of
    times served is kept from going on for ever. -/
def nextNatural (place served count times : Nat) : Nat × Nat :=
  let served := min (served + 1) 4294967295
  if served < times then (place, served)
  else (if place + 1 ≥ count then 0 else place + 1, 0)

variable {p : Position} {count times : UInt32}

/-- Where a place can be counted on, there is room for it. -/
theorem place_succ (inside : p.place < count) : (p.place + 1).toNat = p.place.toNat + 1 := by
  have below := UInt32.lt_iff_toNat_lt.mp inside
  have bound := count.toNat_lt
  rw [UInt32.toNat_add]
  exact Nat.mod_eq_of_lt (by simp; omega)

theorem served_succ (p : Position) :
    (if p.served = 4294967295 then p.served else p.served + 1).toNat =
      min (p.served.toNat + 1) 4294967295 := by
  have bound := p.served.toNat_lt
  split
  · next full => rw [full]; rfl
  · next room =>
    have below : p.served.toNat ≠ 4294967295 := fun full =>
      room (UInt32.toNat_inj.mp full)
    rw [UInt32.toNat_add, Nat.mod_eq_of_lt (by simp; omega)]
    simp
    omega

/-- From within the responses a step in words is the step in natural numbers. -/
theorem next_natural (inside : p.place < count) :
    ((p.next count times).place.toNat, (p.next count times).served.toNat) =
      nextNatural p.place.toNat p.served.toNat count.toNat times.toNat := by
  have served := p.served_succ
  have place := place_succ inside
  unfold next nextNatural
  generalize (if p.served = 4294967295 then p.served else p.served + 1) = once at served
  dsimp only
  rw [← served, ← place]
  by_cases again : once < times
  · rw [if_pos again, if_pos (UInt32.lt_iff_toNat_lt.mp again)]
  · rw [if_neg again, if_neg (mt UInt32.lt_iff_toNat_lt.mpr again)]
    by_cases last : p.place + 1 ≥ count
    · rw [if_pos last, if_pos (UInt32.le_iff_toNat_le.mp last)]
      rfl
    · rw [if_neg last, if_neg (mt UInt32.le_iff_toNat_le.mpr last)]
      rfl

/-- A step leaves a count that is not yet used up, or starts a new one. -/
theorem served_next (p : Position) (count times : UInt32) :
    (p.next count times).place = p.place ∧ (p.next count times).served < times ∨
      (p.next count times).served = 0 := by
  unfold next
  generalize (if p.served = 4294967295 then p.served else p.served + 1) = once
  dsimp only
  by_cases again : once < times
  · rw [if_pos again]
    exact .inl ⟨rfl, again⟩
  · rw [if_neg again]
    exact .inr rfl

end Position

/-! ### Selections -/

namespace Cursor

variable {count : UInt32}

/-- Wherever a cursor has been left, a step starts within the responses. -/
theorem within_lt (positive : 0 < count) (c : Cursor) : (c.within count).place < count :=
  c.peek_lt (UInt32.pos_iff_ne_zero.mp positive)

theorem unpack_select (positive : 0 < count) (c : Cursor) (repeats : UInt32 → Option UInt32) :
    (c.select count repeats).2.unpack =
      (c.within count).next count (timesOf (repeats (c.within count).place)) := by
  rw [select, if_neg (UInt32.pos_iff_ne_zero.mp positive), Position.unpack_pack]

/-- What a selection leaves lies within the responses, and is not done with the one it lies at. -/
theorem select_leaves (positive : 0 < count) (c : Cursor) (repeats : UInt32 → Option UInt32) :
    let left := (c.select count repeats).2.unpack
    left.place < count ∧ (left.served < timesOf (repeats left.place) ∨ left.served = 0) := by
  intro left
  have step : left = (c.within count).next count (timesOf (repeats (c.within count).place)) :=
    unpack_select positive c repeats
  constructor
  · rw [step]
    exact (Position.place_next (within_lt positive c) _).1
  · rcases (c.within count).served_next count (timesOf (repeats (c.within count).place)) with
      ⟨stays, unfinished⟩ | done
    · rw [← step] at stays unfinished
      exact .inl (stays.symm ▸ unfinished)
    · exact .inr (step ▸ done)

/-- **A cursor never leaves its range.**  Whatever the word holds, for any number of responses and any
    times that they ask to be served: a selection hands out the place that was shown before, which
    lies within the responses; counting on goes as in natural numbers, which do not wrap; and what is
    left lies within the responses as well, served less often than the response there asks for, or
    not yet.  No position and no word is lost in packing or unpacking.  So a store hands out a
    response that its stub has, whatever has been done to the store and its stubs before. -/
theorem select_in_range (c : Cursor) (count : UInt32) (positive : 0 < count)
    (repeats : UInt32 → Option UInt32) :
    let start := c.within count
    let left := (c.select count repeats).2.unpack
    (c.select count repeats).1 = c.peek count ∧ c.peek count < count ∧
    start.place.toNat + 1 < 4294967296 ∧
    (left.place.toNat, left.served.toNat) =
      Position.nextNatural start.place.toNat start.served.toNat count.toNat
        (timesOf (repeats start.place)).toNat ∧
    left.place < count ∧ (left.served < timesOf (repeats left.place) ∨ left.served = 0) ∧
    (∀ p : Position, p.pack.unpack = p) ∧ (∀ d : Cursor, d.unpack.pack = d) ∧
    ∀ (s : Store) (events : List StoreEvent) (request : Request) (stub : Stub),
      Store.firstMatch request (s.run events).stubs [] = some stub →
      stub.definition.responses ≠ [] →
      ∃ place response, ((s.run events).resolve request).1 = some ⟨stub, place, response⟩ ∧
        stub.definition.responses[place]? = some response := by
  intro start left
  have some := UInt32.pos_iff_ne_zero.mp positive
  have inside := within_lt positive c
  have room : start.place.toNat + 1 < 4294967296 :=
    Nat.lt_of_le_of_lt (UInt32.lt_iff_toNat_lt.mp inside) count.toNat_lt
  have counted : (left.place.toNat, left.served.toNat) = Position.nextNatural start.place.toNat
      start.served.toNat count.toNat (timesOf (repeats start.place)).toNat := by
    have step : left = start.next count (timesOf (repeats start.place)) :=
      unpack_select positive c repeats
    rw [step]
    exact Position.next_natural inside
  obtain ⟨stays, unfinished⟩ := select_leaves positive c repeats
  refine ⟨c.place_select some repeats, c.peek_lt some, room, counted, stays, unfinished,
    Position.unpack_pack, pack_unpack, ?_⟩
  intro s events request stub first nonempty
  obtain ⟨response, there, answered⟩ := (s.run events).answerFrom_some nonempty
  refine ⟨_, response, ?_, there⟩
  rw [Store.resolve, first]
  exact congrArg Prod.fst answered

/-- The last of three responses has been served as often as can be counted, and asks for just as
    many; and a stub is left with one response while its cursor stands at the second. -/
theorem full_count_in_range :
    let c : Cursor := ⟨12884901887⟩
    let repeats : UInt32 → Option UInt32 := fun _ => some 4294967295
    let stub : Stub :=
      ⟨0, { Store.twoResponses with responses := [.literal .plain none] }, [], 0⟩
    c.unpack = ⟨2, 4294967295⟩ ∧ (c.select 3 repeats).1 = 2 ∧
    (c.select 3 repeats).2.unpack.place.toNat = 0 ∧
    (((Store.empty false).run Store.cursorBeyond).stateAt 0).cursor.unpack.place = 1 ∧
    ∃ place response, (((Store.empty false).run Store.cursorBeyond).resolve
        PredicateTree.oneBody).1 = some ⟨stub, place, response⟩ ∧
      stub.definition.responses[place]? = some response := by
  intro c repeats stub
  have first : Store.firstMatch PredicateTree.oneBody
      ((Store.empty false).run Store.cursorBeyond).stubs [] = some stub := rfl
  obtain ⟨shown, -, -, counted, -, -, -, -, resolved⟩ :=
    select_in_range c 3 (by decide) repeats
  refine ⟨by decide, shown.trans (by decide), ?_, by decide +kernel,
    resolved (Store.empty false) Store.cursorBeyond PredicateTree.oneBody stub first (by decide)⟩
  exact (congrArg Prod.fst counted).trans (by decide)

end Cursor

end VirtualService
