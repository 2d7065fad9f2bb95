/-
  VirtualService/Proofs/Cycling.lean
  ==================================
  **Whose turn it is.**

  Each response of a stub is served as often in a row as it asks for, and then the
  next.  With the number of times of each response in a list, the cursor after `k`
  selections stands at the response in whose stretch of the list `k` falls, counted
  round and round (`Position.Stands`).  One selection takes the cursor from `k` to
  `k + 1`, and nothing else that happens to a store moves it.
-/
import Mathlib.Algebra.GroupWithZero.Nat
import VirtualService.Proofs.Store

namespace VirtualService

/-! ### Positions -/

namespace Position

theorem word_pack (p : Position) :
    p.pack.word.toNat = p.place.toNat * 4294967296 + p.served.toNat := by
  have place := p.place.toNat_lt
  have served := p.served.toNat_lt
  rw [pack, UInt64.toNat_or, UInt64.toNat_shiftLeft]
  simp only [UInt32.toNat_toUInt64]
  have shift : p.place.toNat <<< 32 % 18446744073709551616 = p.place.toNat <<< 32 := by
    rw [Nat.shiftLeft_eq]
    exact Nat.mod_eq_of_lt (by omega)
  simp
  rw [shift, ← Nat.shiftLeft_add_eq_or_of_lt served, Nat.shiftLeft_eq]

theorem unpack_pack (p : Position) : p.pack.unpack = p := by
  have place := p.place.toNat_lt
  have served := p.served.toNat_lt
  have word := word_pack p
  have upper : (p.pack.word >>> 32).toUInt32 = p.place := by
    apply UInt32.toNat_inj.mp
    rw [UInt64.toNat_toUInt32, UInt64.toNat_shiftRight, word]
    simp [Nat.shiftRight_eq_div_pow]
    omega
  have lower : p.pack.word.toUInt32 = p.served := by
    apply UInt32.toNat_inj.mp
    rw [UInt64.toNat_toUInt32, word]
    omega
  rw [Cursor.unpack, upper, lower]

/-- The position after `k` selections among responses that are served so many times each. -/
def Stands (times : List Nat) (k : Nat) (p : Position) : Prop :=
  ∃ t, times[p.place.toNat]? = some t ∧ p.served.toNat < t ∧
    (times.take p.place.toNat).sum + p.served.toNat = k % times.sum

theorem sum_take_succ {times : List Nat} {i t : Nat} (h : times[i]? = some t) :
    (times.take (i + 1)).sum = (times.take i).sum + t := by
  rw [List.take_add_one, h]
  simp

theorem sum_take_le (times : List Nat) (i : Nat) : (times.take i).sum ≤ times.sum := by
  conv => rhs; rw [← List.take_append_drop i times, List.sum_append]
  exact Nat.le_add_right _ _

/-- One selection moves the position by one. -/
theorem Stands.next {times : List Nat} {k : Nat} {p : Position} (h : p.Stands times k)
    (positive : ∀ t ∈ times, 0 < t) {count repeats : UInt32} (length : count.toNat = times.length)
    (current : times[p.place.toNat]? = some repeats.toNat) :
    (p.next count repeats).Stands times (k + 1) := by
  obtain ⟨t, there, unfinished, progress⟩ := h
  obtain rfl : repeats.toNat = t := Option.some.inj (current.symm.trans there)
  have upTo := sum_take_succ there
  have within := sum_take_le times (p.place.toNat + 1)
  have moved : (k + 1) % times.sum = (k % times.sum + 1) % times.sum := by simp
  have servedSmall := repeats.toNat_lt
  have unsaturated : p.served ≠ 4294967295 := by
    intro full
    rw [full] at unfinished
    simp at unfinished
    omega
  have servedNext : (p.served + 1).toNat = p.served.toNat + 1 := by
    rw [UInt32.toNat_add]
    simp
    omega
  have insideList : p.place.toNat < times.length := (List.getElem?_eq_some_iff.mp there).1
  have placeNext : (p.place + 1).toNat = p.place.toNat + 1 := by
    have := count.toNat_lt
    rw [UInt32.toNat_add]
    simp
    omega
  unfold Position.next
  simp only [unsaturated, if_false]
  by_cases again : p.served + 1 < repeats
  · -- the same response once more
    rw [if_pos again]
    have again' : p.served.toNat + 1 < repeats.toNat := by
      have := UInt32.lt_iff_toNat_lt.mp again
      omega
    refine ⟨repeats.toNat, there, ?_, ?_⟩
    · show (p.served + 1).toNat < repeats.toNat
      omega
    · show (times.take p.place.toNat).sum + (p.served + 1).toNat = _
      rw [moved, Nat.mod_eq_of_lt (by omega), servedNext]
      omega
  · rw [if_neg again]
    have finished : p.served.toNat + 1 = repeats.toNat := by
      have := mt UInt32.lt_iff_toNat_lt.mpr again
      omega
    by_cases last : p.place + 1 ≥ count
    · -- the last response is done, and the first comes again
      have last' : p.place.toNat + 1 = times.length := by
        have := UInt32.le_iff_toNat_le.mp last
        omega
      have whole : (times.take (p.place.toNat + 1)).sum = times.sum := by
        rw [last', List.take_length]
      have first : 0 < times.length := by omega
      rw [if_pos last]
      refine ⟨times[0], by simp [first], positive _ (List.getElem_mem first), ?_⟩
      rw [moved, show k % times.sum + 1 = times.sum by omega, Nat.mod_self]
      simp
    · -- the next response comes
      have more : p.place.toNat + 1 < times.length := by
        have := mt UInt32.le_iff_toNat_le.mpr last
        omega
      have nextThere : times[p.place.toNat + 1]? = some times[p.place.toNat + 1] :=
        List.getElem?_eq_getElem more
      have nextPositive := positive _ (List.getElem_mem more)
      have upToNext := sum_take_succ nextThere
      have withinNext := sum_take_le times (p.place.toNat + 1 + 1)
      rw [if_neg last]
      refine ⟨times[p.place.toNat + 1], ?_, nextPositive, ?_⟩
      · rw [← nextThere, ← placeNext]
      · rw [moved, Nat.mod_eq_of_lt (by omega)]
        show (times.take (p.place + 1).toNat).sum + 0 = _
        rw [placeNext, upTo]
        omega

end Position

/-! ### Selections of a stub -/

namespace StubDefinition

/-- How often in a row each response is served. -/
def times (d : StubDefinition) : List Nat :=
  d.responses.map fun r => (Cursor.timesOf r.repeats).toNat

theorem times_positive (d : StubDefinition) : ∀ t ∈ d.times, 0 < t := by
  intro t mem
  obtain ⟨r, -, rfl⟩ := List.mem_map.mp mem
  have atLeast : (1 : UInt32) ≤ Cursor.timesOf r.repeats := by
    rw [Cursor.timesOf, UInt32.max_def]
    split
    · exact UInt32.le_refl _
    · next h => exact (UInt32.le_total _ _).resolve_left h
  exact UInt32.le_iff_toNat_le.mp atLeast

theorem times_length (d : StubDefinition) : d.times.length = d.responses.length := by
  rw [times, List.length_map]

/-- Where nobody asks for zero times, these are the times that are said, and once where nothing is. -/
theorem times_of_positive {d : StubDefinition} (h : ∀ r ∈ d.responses, r.repeats ≠ some 0) :
    d.times = d.responses.map fun r => (r.repeats.getD 1).toNat := by
  refine List.map_congr_left fun r mem => ?_
  have notZero := h r mem
  cases said : r.repeats with
  | none => rfl
  | some n =>
    have positive : 1 ≤ n := by
      rw [UInt32.le_iff_toNat_le]
      have : n.toNat ≠ 0 := fun zero =>
        notZero (said.trans (congrArg some (UInt32.toNat_inj.mp zero)))
      show 1 ≤ n.toNat
      omega
    rw [Cursor.timesOf, Option.getD_some, UInt32.max_def]
    split
    · next le => rw [UInt32.le_antisymm le positive]
    · rfl

end StubDefinition

namespace Cursor

/-- A cursor inside the responses selects where it stands. -/
theorem select_inside {c : Cursor} {count : UInt32} (inside : c.unpack.place < count)
    (repeats : UInt32 → Option UInt32) :
    c.select count repeats = (c.unpack.place,
      (c.unpack.next count (timesOf (repeats c.unpack.place))).pack) := by
  have some : count ≠ 0 := by
    rintro rfl
    exact absurd (UInt32.lt_iff_toNat_lt.mp inside) (Nat.not_lt_zero _)
  have within : c.within count = c.unpack := by
    rw [Cursor.within, if_neg (UInt32.not_le.mpr inside)]
  simp only [select, some, if_false, within]

end Cursor

namespace Store

/-- The response that a selection hands out is the one in whose stretch the number falls. -/
def IsTurn (d : StubDefinition) (k : Nat) (selection : Selection) : Prop :=
  d.responses[selection.place]? = some selection.response ∧
    (d.times.take selection.place).sum ≤ k % d.times.sum ∧
    k % d.times.sum < (d.times.take (selection.place + 1)).sum

/-! ### One selection -/

/-- A stub is listed under an identity with a definition. -/
def Lists (s : Store) (id : Nat) (d : StubDefinition) : Prop :=
  ∃ stub ∈ s.stubs, stub.id = id ∧ stub.definition = d

/-- A stub is listed, and its cursor stands where it does after `k` selections. -/
def Stands (s : Store) (id : Nat) (d : StubDefinition) (k : Nat) : Prop :=
  ∃ stub ∈ s.stubs, stub.id = id ∧ stub.definition = d ∧
    (s.stateAt stub.cell).cursor.unpack.Stands d.times k

section OneStub

variable {s : Store} {stub : Stub} {k : Nat}

theorem responseCount_toNat (few : stub.definition.responses.length < 4294967296) :
    stub.responseCount.toNat = stub.definition.responses.length := by
  rw [Stub.responseCount, UInt32.toNat_ofNat_of_lt']
  · exact Nat.min_eq_left (Nat.le_of_lt_succ few)
  · exact Nat.lt_of_le_of_lt (Nat.min_le_left _ _) few

/-- The stub hands out the response whose turn it is, and its cursor moves by one. -/
theorem answerFrom_stands (held : stub.cell < s.cells.length)
    (few : stub.definition.responses.length < 4294967296)
    (h : (s.stateAt stub.cell).cursor.unpack.Stands stub.definition.times k) :
    (∃ selection, (s.answerFrom stub).1 = some selection ∧ IsTurn stub.definition k selection) ∧
      ((s.answerFrom stub).2.stateAt stub.cell).cursor.unpack.Stands stub.definition.times
        (k + 1) := by
  have answered := answerFrom_eq s stub
  have moved := cursor_answerFrom held
  generalize (s.stateAt stub.cell).cursor = c at *
  obtain ⟨t, there, unfinished, progress⟩ := id h
  have stretch := Position.sum_take_succ there
  have insideTimes := (List.getElem?_eq_some_iff.mp there).1
  rw [StubDefinition.times_length] at insideTimes
  have authored := List.getElem?_eq_getElem insideTimes
  have current : stub.definition.times[c.unpack.place.toNat]? =
      some (Cursor.timesOf (stub.repeatsAt c.unpack.place)).toNat := by
    rw [StubDefinition.times, List.getElem?_map, Stub.repeatsAt, authored]
    rfl
  have count := responseCount_toNat few
  have inside : c.unpack.place < stub.responseCount := by
    rw [UInt32.lt_iff_toNat_lt, count]
    exact insideTimes
  rw [Cursor.select_inside inside] at answered moved
  constructor
  · have nonempty : stub.definition.responses ≠ [] := by
      intro nothing
      rw [nothing] at insideTimes
      cases insideTimes
    rw [answered, List.head?_eq_some_head nonempty]
    refine ⟨_, rfl, ?_, ?_, ?_⟩
    · dsimp only
      rw [List.getD_eq_getElem?_getD, authored]
      rfl
    · dsimp only
      omega
    · dsimp only
      omega
  · rw [moved, Position.unpack_pack]
    exact h.next stub.definition.times_positive (count.trans (StubDefinition.times_length _).symm)
      current

end OneStub

/-! ### Everything else that happens -/

/-- The identity of the first stub that recognises a request. -/
def recognised (s : Store) (request : Request) : Option Nat :=
  (firstMatch request s.stubs []).map Stub.id

/-- An event is a request that the stub of the identity is the first to recognise. -/
def IsCall (s : Store) (id : Nat) (event : StoreEvent) : Prop :=
  ∃ request, event = .answer request ∧ s.recognised request = some id

/-- An event that is no call of a stub does not move its cursor. -/
theorem cursor_after {s : Store} (sound : s.Sound) {stub : Stub} (mem : stub ∈ s.stubs)
    {event : StoreEvent} (noCall : ¬s.IsCall stub.id event) :
    ((s.after event).stateAt stub.cell).cursor = (s.stateAt stub.cell).cursor := by
  cases event with
  | edit command => rw [after, (apply_edited s command).stateAt_eq (sound.held stub mem)]
  | answer request =>
    rw [after, resolve]
    split
    · rfl
    · next other first =>
      have different : other.cell ≠ stub.cell := by
        intro same
        have equal := sound.eq_of_cell (firstMatch_mem first) mem same
        exact noCall ⟨request, rfl, by rw [recognised, first, equal, Option.map_some]⟩
      rw [stateAt_answerFrom_ne s different]
  | remember cell record => exact cursor_modifyState s stub.cell cell fun _ => rfl
  | forget id =>
    rw [after, clearStatistics]
    split
    · exact cursor_modifyState s stub.cell _ fun _ => rfl
    · rfl

variable {s : Store} {id k : Nat} {d : StubDefinition}

/-- Other events leave a stub where it stands, if they leave it as it is. -/
theorem Stands.other (sound : s.Sound) (h : s.Stands id d k) {event : StoreEvent}
    (noCall : ¬s.IsCall id event) (still : (s.after event).Lists id d) :
    (s.after event).Stands id d k := by
  obtain ⟨stub, mem, rfl, -, stands⟩ := h
  obtain ⟨later, memLater, same, definition⟩ := still
  -- its definition may have been changed and changed back, but never its cell
  have cell := (after_later s event).cell_eq sound mem memLater same.symm
  refine ⟨later, memLater, same, definition, ?_⟩
  rw [← cell, cursor_after sound mem noCall]
  exact stands

/-- A call hands out the response whose turn it is, and moves the stub on. -/
theorem Stands.call (sound : s.Sound) (h : s.Stands id d k) (few : d.responses.length < 4294967296)
    {request : Request} (call : s.recognised request = some id) :
    (∃ selection, (s.resolve request).1 = some selection ∧ IsTurn d k selection) ∧
      (s.after (.answer request)).Stands id d (k + 1) := by
  obtain ⟨stub, mem, rfl, rfl, stands⟩ := h
  obtain ⟨first, found, same⟩ := Option.map_eq_some_iff.mp call
  obtain rfl := sound.eq_of_id (firstMatch_mem found) mem same
  have answered : s.resolve request = s.answerFrom first := by rw [resolve, found]
  obtain ⟨chosen, moved⟩ := answerFrom_stands (sound.held first mem) few stands
  refine ⟨answered ▸ chosen, ?_⟩
  rw [after, answered]
  obtain ⟨cells, -, equal⟩ := answerFrom_same s first
  exact ⟨first, by rw [equal]; exact mem, rfl, rfl, moved⟩

/-! ### Whole histories -/

/-- What the calls of a stub hand out, in order. -/
def calls (s : Store) (id : Nat) : List StoreEvent → List (Option Selection)
  | [] => []
  | event :: events =>
      let rest := (s.after event).calls id events
      match event with
      | .answer request =>
          if s.recognised request = some id then (s.resolve request).1 :: rest else rest
      | _ => rest

theorem calls_call {request : Request} (call : s.recognised request = some id)
    (events : List StoreEvent) :
    s.calls id (.answer request :: events) =
      (s.resolve request).1 :: (s.after (.answer request)).calls id events := by
  simp only [calls, call, if_true]

theorem calls_other {event : StoreEvent} (noCall : ¬s.IsCall id event) (events : List StoreEvent) :
    s.calls id (event :: events) = (s.after event).calls id events := by
  cases event with
  | answer request =>
    have other : s.recognised request ≠ some id := fun call => noCall ⟨request, rfl, call⟩
    simp only [calls, other, if_false]
  | _ => rfl

/-- From where a stub stands its calls take their turns, as long as it stays as it is. -/
theorem Stands.calls (sound : s.Sound) (h : s.Stands id d k) (few : d.responses.length < 4294967296)
    {events : List StoreEvent}
    (kept : ∀ seen rest, events = seen ++ rest → (s.run seen).Lists id d) (i : Nat) :
    ∀ o, (s.calls id events)[i]? = some o →
      ∃ selection, o = some selection ∧ IsTurn d (k + i) selection := by
  -- the store and the count move along with the events; an event that is no call moves only the store
  induction events generalizing s k i with
  | nil => simp [Store.calls]
  | cons event events ih =>
    have keptAfter : ∀ seen rest, events = seen ++ rest →
        ((s.after event).run seen).Lists id d := fun seen rest split =>
      kept (event :: seen) rest (by rw [split, List.cons_append])
    intro o there
    by_cases call : s.IsCall id event
    · obtain ⟨request, rfl, recognised⟩ := call
      obtain ⟨turn, moved⟩ := h.call sound few recognised
      rw [calls_call recognised] at there
      cases i with
      | zero =>
        obtain ⟨selection, answered, isTurn⟩ := turn
        rw [List.getElem?_cons_zero, answered] at there
        exact ⟨selection, (Option.some.inj there).symm, isTurn⟩
      | succ i =>
        rw [List.getElem?_cons_succ] at there
        have later := ih (sound.after _) moved keptAfter i o there
        rwa [show k + (i + 1) = k + 1 + i by omega]
    · rw [calls_other call] at there
      exact ih (sound.after _) (h.other sound call (kept [event] events rfl)) keptAfter i o there

/-- A stub that a command has newly listed stands at its start. -/
theorem stands_new {command : StoreCommand} (fresh : id ∉ s.ids) (some : d.responses ≠ [])
    (listed : (s.apply command).2.Lists id d) : (s.apply command).2.Stands id d 0 := by
  obtain ⟨stub, mem, rfl, rfl⟩ := listed
  have edited := apply_edited s command
  refine ⟨stub, mem, rfl, rfl, ?_⟩
  rcases edited.later.fate stub mem with ⟨old, memOld, same, -⟩ | ⟨-, newCell⟩
  · exact absurd (mem_ids.mpr ⟨old, memOld, same⟩) fresh
  · rw [edited.stateAt_new newCell]
    have first : 0 < stub.definition.times.length := by
      rw [StubDefinition.times_length]
      exact List.length_pos_iff.mpr some
    exact ⟨stub.definition.times[0], List.getElem?_eq_getElem first,
      stub.definition.times_positive _ (List.getElem_mem first), (Nat.zero_mod _).symm⟩

/-- Two responses, the first of which is served twice. -/
def twoResponses : StubDefinition :=
  ⟨[], [.literal .plain (some 2), .literal { LiteralResponse.plain with status := 404 } none], []⟩

end Store

end VirtualService
