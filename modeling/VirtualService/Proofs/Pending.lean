/-
  VirtualService/Proofs/Pending.lean
  ==================================
  **Whose turn it is when a stub gets more responses.**

  Responses that are added to a stub come after those that are pending: the next
  response is the same as before, and none of the new ones is handed out before all
  that are left of the old ones have been (`Store.append_keeps_turn`).  There is one
  exception.  A cursor that a shorter definition has left beyond the end shows the
  first response without being moved there, and where the new responses reach that
  far it stands at one of them (`Cursor.Between`, `stale_cursor_returns`).  Such a
  cursor comes of a replacement only, and lasts until the stub hands out a response
  again (`Cursor.Settled`).
-/
import VirtualService.Proofs.Commands
import VirtualService.Proofs.FirstMatch

namespace VirtualService

/-! ### Cursors that stand where they show -/

theorem Position.place_next {p : Position} {count : UInt32} (inside : p.place < count)
    (repeats : UInt32) :
    (p.next count repeats).place < count ∧
      (p.next count repeats).place.toNat ≤ p.place.toNat + 1 := by
  have positive : 0 < count := UInt32.lt_of_le_of_lt UInt32.zero_le inside
  have step : (p.place + 1).toNat ≤ p.place.toNat + 1 := by
    rw [UInt32.toNat_add]
    exact Nat.mod_le _ _
  unfold next
  generalize (if p.served = 4294967295 then p.served else p.served + 1) = served
  dsimp only
  by_cases again : served < repeats
  · rw [if_pos again]
    exact ⟨inside, Nat.le_succ _⟩
  · rw [if_neg again]
    by_cases last : p.place + 1 ≥ count
    · rw [if_pos last]
      exact ⟨positive, Nat.zero_le _⟩
    · rw [if_neg last]
      exact ⟨UInt32.not_le.mp last, step⟩

namespace Cursor

variable {c : Cursor} {count more : UInt32}

/-- The cursor stands where it shows. -/
def Settled (c : Cursor) (count : UInt32) : Prop := c.peek count = c.unpack.place

/-- The cursor stands beyond one number of responses and within another. -/
def Between (c : Cursor) (count more : UInt32) : Prop :=
  count ≤ c.unpack.place ∧ c.unpack.place < more

theorem peek_inside (inside : c.unpack.place < count) : c.peek count = c.unpack.place := by
  rw [peek, within, if_neg (UInt32.not_le.mpr inside)]

theorem peek_beyond (beyond : count ≤ c.unpack.place) : c.peek count = 0 := by
  rw [peek, within, if_pos beyond]
  rfl

theorem settled_initial (count : UInt32) : Settled initial count := by
  unfold Settled peek within
  split
  · rfl
  · rfl

theorem Settled.mono (settled : c.Settled count) (le : count ≤ more) : c.Settled more := by
  by_cases inside : c.unpack.place < more
  · exact peek_inside inside
  · have beyond := UInt32.not_lt.mp inside
    rw [Settled, peek_beyond (UInt32.le_trans le beyond)] at settled
    rw [Settled, peek_beyond beyond, settled]

theorem peek_pack {p : Position} (inside : p.place < count) : p.pack.peek count = p.place := by
  have stands : p.pack.unpack.place < count := by
    rw [Position.unpack_pack]
    exact inside
  rw [peek_inside stands, Position.unpack_pack]

/-- A selection goes on by one place at most, and settles the cursor. -/
theorem select_moves (positive : count ≠ 0) (c : Cursor) (repeats : UInt32 → Option UInt32) :
    (c.select count repeats).2.Settled count ∧
      ((c.select count repeats).2.peek count).toNat ≤ (c.peek count).toNat + 1 := by
  obtain ⟨inside, step⟩ :=
    Position.place_next (c.peek_lt positive) (timesOf (repeats (c.peek count)))
  rw [select, if_neg positive]
  constructor
  · rw [Settled, Position.unpack_pack]
    exact peek_pack inside
  · have place := congrArg UInt32.toNat (peek_pack inside)
    exact place.symm ▸ step

theorem Between.peeks (between : c.Between count more) :
    c.peek count = 0 ∧ c.peek more = c.unpack.place :=
  ⟨peek_beyond between.1, peek_inside between.2⟩

theorem Settled.not_between (settled : c.Settled count) (positive : count ≠ 0) :
    ¬c.Between count more := by
  intro between
  have place : c.unpack.place = 0 := settled.symm.trans between.peeks.1
  have none := place ▸ between.1
  exact positive (UInt32.le_antisymm none UInt32.zero_le)

/-- With more responses the cursor shows the same place, unless it stands at one of the new. -/
theorem peek_eq_iff (positive : count ≠ 0) (le : count ≤ more) :
    c.peek more = c.peek count ↔ ¬c.Between count more := by
  constructor
  · intro same between
    have settled : c.Settled count := same.symm.trans between.peeks.2
    exact settled.not_between positive between
  · intro apart
    by_cases inside : c.unpack.place < count
    · rw [peek_inside inside, peek_inside (UInt32.lt_of_lt_of_le inside le)]
    · have beyond := UInt32.not_lt.mp inside
      have beyondMore : more ≤ c.unpack.place := UInt32.not_lt.mp fun less => apart ⟨beyond, less⟩
      rw [peek_beyond beyond, peek_beyond beyondMore]

end Cursor

namespace Store

variable {s : Store} {command : StoreCommand} {stub : Stub} {id : Nat} {events : List StoreEvent}

/-! ### More responses -/

theorem responseCount_extended_le (stub : Stub) (responses : List ResponseDefinition) :
    stub.responseCount ≤ (extended stub responses).responseCount := by
  have longer : stub.definition.responses.length ≤
      (extended stub responses).definition.responses.length := by
    rw [extended, List.length_append]
    exact Nat.le_add_right _ _
  rw [UInt32.le_iff_toNat_le, Stub.responseCount_toNat_eq, Stub.responseCount_toNat_eq]
  omega

/-- Where the stubs of a list come from that a command has made. -/
inductive ComesFrom (s : Store) (command : StoreCommand) (stub : Stub) : Prop
  | kept (mem : stub ∈ s.stubs)
  | new (cell : s.cells.length ≤ stub.cell)
  | replaced (d : StubDefinition) (replaces : command = .replace stub.id d)
  | extended (known : Stub) (mem : known ∈ s.stubs) (responses : List ResponseDefinition)
      (equal : stub = Store.extended known responses)

theorem Makes.comesFrom {change : StoreChange} {stubs : List Stub}
    (h : s.Makes command change stubs) (mem : stub ∈ stubs) : s.ComesFrom command stub := by
  cases h with
  | inserted compiled split place =>
    simp only [List.mem_append, List.mem_cons] at mem
    rcases mem with old | rfl | old
    · exact .kept (by simp [split, old])
    · exact .new (Nat.le_refl _)
    · exact .kept (by simp [split, old])
  | removed split | removedAt split =>
    rcases List.mem_append.mp mem with old | old
    · exact .kept (by simp [split, old])
    · exact .kept (by simp [split, old])
  | replaced compiled split =>
    simp only [List.mem_append, List.mem_cons] at mem
    rcases mem with old | rfl | old
    · exact .kept (by simp [split, old])
    · exact .replaced _ rfl
    · exact .kept (by simp [split, old])
  | replacedAll definitions ids cells compiled =>
    have inside := List.mem_map_of_mem (f := Stub.cell) mem
    rw [cells] at inside
    exact .new (List.mem_range'_1.mp inside).1
  | recorded compiled split =>
    simp only [List.mem_append, List.mem_cons] at mem
    rcases mem with old | rfl | rfl | old
    · exact .kept (by simp [split, old])
    · exact .new (Nat.le_refl _)
    · exact .kept (by simp [split])
    · exact .kept (by simp [split, old])
  | @extended d _ _ known _ _ _ compiled split others same =>
    simp only [List.mem_append, List.mem_cons] at mem
    rcases mem with old | rfl | old | rfl | old
    · exact .kept (by simp [split, old])
    · exact .kept (by simp [split])
    · exact .kept (by simp [split, old])
    · exact .extended known (by simp [split]) d.responses rfl
    · exact .kept (by simp [split, old])
  | appended compiled split others =>
    simp only [List.mem_append, List.mem_cons] at mem
    rcases mem with old | rfl | rfl | old
    · exact .kept (by simp [split, old])
    · exact .kept (by simp [split])
    · exact .new (Nat.le_refl _)
    · exact .kept (by simp [split, old])

theorem Sound.comesFrom (sound : s.Sound) (mem : stub ∈ (s.apply command).2.stubs) :
    s.ComesFrom command stub := by
  cases sound.comesTo command with
  | refused e reason fails kept => exact .kept (kept ▸ mem)
  | made change allowed works list => exact list.comesFrom mem

/-- An extension that is reported has taken place. -/
theorem Sound.extends_of_appended (sound : s.Sound) {first : Nat} {d : StubDefinition}
    (ok : (s.apply (.append first d)).1 = .ok (.appended id)) :
    ∃ known ∈ s.stubs, known.id = id ∧
      extended known d.responses ∈ (s.apply (.append first d)).2.stubs := by
  cases sound.comesTo (.append first d) with
  | refused e reason fails kept =>
    rw [ok] at fails
    cases fails
  | made change allowed works list =>
    rw [ok] at works
    cases works
    generalize (s.apply (.append first d)).2.stubs = stubs at list
    cases list with
    | extended compiled split others same =>
      exact ⟨_, by simp [split], rfl, by simp [extended]⟩

/-! ### Calls -/

theorem SameButStates.stubs_eq {t : Store} (same : s.SameButStates t) : t.stubs = s.stubs := by
  obtain ⟨cells, -, rfl⟩ := same
  rfl

/-- Answers change no list. -/
theorem stubs_run_answers (s : Store) (requests : List Request) :
    (s.run (requests.map .answer)).stubs = s.stubs := by
  induction requests generalizing s with
  | nil => rfl
  | cons request requests ih =>
    exact (ih (s.after (.answer request))).trans (resolve_same s request).stubs_eq

theorem Sound.resolve_call (sound : s.Sound) {request : Request} (mem : stub ∈ s.stubs)
    (call : s.recognised request = some stub.id) : s.resolve request = s.answerFrom stub := by
  obtain ⟨first, found, same⟩ := Option.map_eq_some_iff.mp call
  obtain rfl := sound.eq_of_id (firstMatch_mem found) mem same
  rw [resolve, found]

theorem recognised_of_selection {request : Request} {selection : Selection}
    (chosen : (s.resolve request).1 = some selection) :
    s.recognised request = some selection.stub.id ∧ selection.stub ∈ s.stubs ∧
      selection.stub.definition.responses ≠ [] := by
  rw [resolve] at chosen
  cases found : firstMatch request s.stubs [] with
  | none =>
    rw [found] at chosen
    cases chosen
  | some first =>
    rw [found] at chosen
    dsimp only at chosen
    rw [answerFrom_eq] at chosen
    obtain ⟨response, head, rfl⟩ := Option.map_eq_some_iff.mp chosen
    refine ⟨by rw [recognised, found, Option.map_some], firstMatch_mem found, fun bare => ?_⟩
    rw [show first.definition.responses = [] from bare] at head
    cases head

/-! ### Stubs whose cursors are settled -/

/-- The cursor of a stub stands where it shows, if the stub is listed. -/
def Settled (s : Store) (id : Nat) : Prop :=
  ∀ stub ∈ s.stubs, stub.id = id → (s.stateAt stub.cell).cursor.Settled stub.responseCount

theorem settled_of_unlisted (unlisted : id ∉ s.ids) : s.Settled id := by
  intro stub mem named
  exact absurd (mem_ids.mpr ⟨stub, mem, named⟩) unlisted

/-- A call settles a stub that has responses, and leaves any other as it is. -/
theorem settled_call (sound : s.Sound) {request : Request} (call : s.recognised request = some id)
    (bare : ∀ stub ∈ s.stubs, stub.id = id → stub.definition.responses = [] →
      (s.stateAt stub.cell).cursor.Settled stub.responseCount) :
    (s.after (.answer request)).Settled id := by
  intro stub mem named
  have old : stub ∈ s.stubs := (resolve_same s request).stubs_eq ▸ mem
  have answered := sound.resolve_call old (named.symm ▸ call)
  rw [Store.after, answered, cursor_answerFrom (sound.held stub old)]
  by_cases none : stub.definition.responses = []
  · have count : stub.responseCount = 0 := by
      rw [Stub.responseCount, none]
      rfl
    have still := bare stub old named none
    rw [count] at still ⊢
    exact still
  · exact (Cursor.select_moves (Stub.responseCount_ne_zero none) _ _).1

theorem settled_of_selection (sound : s.Sound) {request : Request} {selection : Selection}
    (chosen : (s.resolve request).1 = some selection) :
    (s.after (.answer request)).Settled selection.stub.id := by
  obtain ⟨call, mem, nonempty⟩ := recognised_of_selection chosen
  refine settled_call sound call fun stub there same bare => ?_
  rw [sound.eq_of_id there mem same] at bare
  exact absurd bare nonempty

/-- Only a replacement can unsettle a stub. -/
theorem Settled.after (settled : s.Settled id) (sound : s.Sound) {event : StoreEvent}
    (kept : ∀ d, event ≠ .edit (.replace id d)) : (s.after event).Settled id := by
  have unmoved (noCall : ¬s.IsCall id event) (same : (s.after event).stubs = s.stubs) :
      (s.after event).Settled id := by
    rintro stub mem rfl
    have old : stub ∈ s.stubs := same ▸ mem
    rw [cursor_after sound old noCall]
    exact settled stub old rfl
  cases event with
  | edit command =>
    intro stub mem named
    rw [Store.after, stateAt_apply]
    cases sound.comesFrom mem with
    | kept old => exact settled stub old named
    | new cell =>
      rw [stateAt, List.getElem?_eq_none cell]
      exact Cursor.settled_initial _
    | replaced d replaces => exact absurd (by rw [replaces, named]) (kept d)
    | extended known old responses equal =>
      subst equal
      exact (settled known old named).mono (responseCount_extended_le known responses)
  | answer request =>
    by_cases call : s.recognised request = some id
    · exact settled_call sound call fun stub mem named _ => settled stub mem named
    · refine unmoved ?_ (resolve_same s request).stubs_eq
      rintro ⟨_, ⟨⟩, made⟩
      exact call made
  | remember cell record => exact unmoved (by rintro ⟨_, ⟨⟩, -⟩) rfl
  | forget other => exact unmoved (by rintro ⟨_, ⟨⟩, -⟩) (clearStatistics_same s other).stubs_eq

theorem Settled.run (settled : s.Settled id) (sound : s.Sound)
    (kept : ∀ d, StoreEvent.edit (.replace id d) ∉ events) : (s.run events).Settled id := by
  induction events generalizing s with
  | nil => exact settled
  | cons event events ih =>
    have first : ∀ d, event ≠ .edit (.replace id d) := by
      rintro d rfl
      exact kept d List.mem_cons_self
    have later : ∀ d, StoreEvent.edit (.replace id d) ∉ events :=
      fun d mem => kept d (List.mem_cons_of_mem _ mem)
    exact ih (settled.after sound first) (sound.after event) later

/-- Nothing has replaced a stub since it was not listed, or since it handed out a response. -/
def Unreplaced (s : Store) (events : List StoreEvent) (id : Nat) : Prop :=
  ∃ seen later, events = seen ++ later ∧ (∀ d, StoreEvent.edit (.replace id d) ∉ later) ∧
    (id ∉ (s.run seen).ids ∨
      ∃ earlier request selection, seen = earlier ++ [.answer request] ∧
        ((s.run earlier).resolve request).1 = some selection ∧ selection.stub.id = id)

theorem Unreplaced.settled (h : s.Unreplaced events id) (sound : s.Sound) :
    (s.run events).Settled id := by
  obtain ⟨seen, later, rfl, kept, start⟩ := h
  have settled : (s.run seen).Settled id := by
    rcases start with unlisted | ⟨earlier, request, selection, rfl, chosen, rfl⟩
    · exact settled_of_unlisted unlisted
    · rw [run, List.foldl_append]
      exact settled_of_selection (sound.run earlier) chosen
  rw [run, List.foldl_append]
  exact settled.run (sound.run seen) kept

/-! ### Responses that are pending -/

/-- A stub with responses hands out the one that it shows, and goes on by one place at most. -/
theorem next_answerFrom (held : stub.cell < s.cells.length)
    (nonempty : stub.definition.responses ≠ []) :
    (∃ response, (s.answerFrom stub).1 =
        some ⟨stub, (s.statisticsOf stub).next, response⟩) ∧
      ((s.answerFrom stub).2.statisticsOf stub).next ≤ (s.statisticsOf stub).next + 1 := by
  obtain ⟨response, -, answer⟩ := s.answerFrom_some nonempty
  constructor
  · exact ⟨response, congrArg Prod.fst answer⟩
  · rw [statisticsOf, cursor_answerFrom held]
    exact (Cursor.select_moves (Stub.responseCount_ne_zero nonempty) _ _).2

/-- While a stub stays as it is, no response is handed out before those that are between it and the
    one whose turn it is. -/
theorem Sound.calls_in_turn (sound : s.Sound) {d : StubDefinition} (nonempty : d.responses ≠ [])
    (mem : stub ∈ s.stubs)
    (kept : ∀ seen rest, events = seen ++ rest → (s.run seen).Lists stub.id d)
    {k place : Nat} {selection : Selection}
    (handed : (s.calls stub.id events)[k]? = some (some selection))
    (pending : (s.statisticsOf stub).next ≤ place) (skipped : place < selection.place) :
    ∃ j < k, ∃ earlier, (s.calls stub.id events)[j]? = some (some earlier) ∧
      earlier.place = place := by
  -- an event that is no call leaves the turn where it is, and a call moves it by one place at most
  induction events generalizing s stub k with
  | nil => cases handed
  | cons event events ih =>
    obtain ⟨now, memNow, sameNow, definitionNow⟩ := kept [] _ rfl
    obtain rfl := sound.eq_of_id memNow mem sameNow
    obtain ⟨next, memNext, same, definition⟩ := kept [event] events rfl
    change next ∈ (s.after event).stubs at memNext
    have cell := (after_later s event).cell_eq sound mem memNext same.symm
    have keptAfter : ∀ seen rest, events = seen ++ rest →
        ((s.after event).run seen).Lists next.id d := by
      intro seen rest split
      rw [same]
      exact kept (event :: seen) rest (by rw [split, List.cons_append])
    have shown : ((s.after event).statisticsOf next).next =
        ((s.after event).statisticsOf now).next := by
      simp only [statisticsOf, Stub.responseCount, definition, definitionNow, cell]
    have rest {k : Nat} (left : ((s.after event).calls now.id events)[k]? = some (some selection))
        (pending : ((s.after event).statisticsOf now).next ≤ place) :
        ∃ j < k, ∃ earlier, ((s.after event).calls now.id events)[j]? = some (some earlier) ∧
          earlier.place = place := by
      have later := ih (sound.after event) memNext keptAfter (k := k)
      rw [same, shown] at later
      exact later left pending
    by_cases call : s.IsCall now.id event
    · obtain ⟨request, rfl, recognised⟩ := call
      have answered := sound.resolve_call mem recognised
      obtain ⟨⟨response, chosen⟩, moved⟩ :=
        next_answerFrom (sound.held now mem) (definitionNow ▸ nonempty)
      rw [calls_call recognised, answered, chosen] at handed ⊢
      cases k with
      | zero =>
        cases handed
        exact absurd skipped (Nat.not_lt.mpr pending)
      | succ k =>
        rw [List.getElem?_cons_succ] at handed
        by_cases turn : (s.statisticsOf now).next = place
        · exact ⟨0, Nat.succ_pos k, _, rfl, turn⟩
        · have further : ((s.after (.answer request)).statisticsOf now).next ≤ place := by
            rw [Store.after, answered]
            omega
          obtain ⟨j, less, earlier, there, equal⟩ := rest handed further
          exact ⟨j + 1, Nat.succ_lt_succ less, earlier, there, equal⟩
    · rw [calls_other call] at handed ⊢
      have still : ((s.after event).statisticsOf now).next = (s.statisticsOf now).next := by
        simp only [statisticsOf, cursor_after sound mem call]
      exact rest handed (still.symm ▸ pending)

/-! ### In any store -/

/-- However a store has come about: when a command has extended a stub that has responses, the next
    response of the stub is the same as before, unless its cursor stands beyond the old responses and
    within the extended ones.  Then the first was next before, and the one where the cursor stands is
    now.  That cannot be if nothing has replaced the stub since it was inserted or handed out a
    response.  Where the next response is the same, none of the new ones is handed out before all old
    ones from the next to the last have been, for as long as the stub stays as it is. -/
theorem append_keeps_turn (scripts : Bool) (events : List StoreEvent) {first id : Nat}
    {d : StubDefinition}
    (ok : (((empty scripts).run events).apply (.append first d)).1 = .ok (.appended id)) :
    let s := (empty scripts).run events
    let t := (s.apply (.append first d)).2
    ∃ known ∈ s.stubs, known.id = id ∧ extended known d.responses ∈ t.stubs ∧
    ∃ old new : StubStatistics,
      (s.statistics.find? fun figures => figures.id = id) = some old ∧
      (t.statistics.find? fun figures => figures.id = id) = some new ∧
      new.responses = old.responses + d.responses.length ∧
      (1 ≤ old.responses →
        let cursor := (s.stateAt known.cell).cursor
        let beyond := cursor.Between known.responseCount
          (extended known d.responses).responseCount
        (new.next = old.next ↔ ¬beyond) ∧
        (beyond → old.next = 0 ∧ new.next = cursor.unpack.place.toNat) ∧
        ((empty scripts).Unreplaced events id → new.next = old.next) ∧
        (new.next = old.next → ∀ later : List StoreEvent,
          (∀ seen rest, later = seen ++ rest →
            (t.run seen).Lists id (extended known d.responses).definition) →
          ∀ (k : Nat) (selection : Selection),
            (t.calls id later)[k]? = some (some selection) → old.responses ≤ selection.place →
            ∀ place, old.next ≤ place → place < old.responses →
              ∃ j < k, ∃ earlier, (t.calls id later)[j]? = some (some earlier) ∧
                earlier.place = place)) := by
  intro s t
  have sound : s.Sound := (sound_empty scripts).run events
  have soundAfter : t.Sound := sound.after (.edit (.append first d))
  obtain ⟨known, mem, rfl, memAfter⟩ := sound.extends_of_appended ok
  have state : t.stateAt known.cell = s.stateAt known.cell := stateAt_apply s _ known.cell
  have newNext : (t.statisticsOf (extended known d.responses)).next =
      ((s.stateAt known.cell).cursor.peek (extended known d.responses).responseCount).toNat :=
    congrArg (fun state : StubState =>
      (state.cursor.peek (extended known d.responses).responseCount).toNat) state
  refine ⟨known, mem, rfl, memAfter, s.statisticsOf known,
    t.statisticsOf (extended known d.responses), sound.statistics_of mem,
    soundAfter.statistics_of memAfter, List.length_append, fun some => ?_⟩
  have nonempty : known.definition.responses ≠ [] := List.length_pos_iff.mp some
  have positive := Stub.responseCount_ne_zero nonempty
  have more := responseCount_extended_le known d.responses
  have same : (t.statisticsOf (extended known d.responses)).next = (s.statisticsOf known).next ↔
      ¬(s.stateAt known.cell).cursor.Between known.responseCount
        (extended known d.responses).responseCount := by
    rw [newNext, ← Cursor.peek_eq_iff positive more]
    exact UInt32.toNat_inj
  refine ⟨same, fun beyond => ?_, fun unreplaced => ?_, fun unchanged later kept => ?_⟩
  · obtain ⟨before, now⟩ := beyond.peeks
    rw [newNext, now]
    exact ⟨congrArg UInt32.toNat before, rfl⟩
  · have settled := unreplaced.settled (sound_empty scripts) known mem rfl
    exact same.mpr (settled.not_between positive)
  · intro k selection handed new place pending old
    have nonemptyAfter : (extended known d.responses).definition.responses ≠ [] :=
      List.append_ne_nil_of_left_ne_nil nonempty _
    exact soundAfter.calls_in_turn nonemptyAfter memAfter kept handed (unchanged ▸ pending)
      (Nat.lt_of_lt_of_le old new)

/-- A stub for requests with a body, with so many responses. -/
def withBodies (count : Nat) : StubDefinition :=
  { withBody with responses := List.replicate count (.literal .plain none) }

/-- The first of two responses has been handed out. -/
def halfway : List StoreEvent :=
  [.edit (.replaceAll [withPath, withBodies 2]), .answer PredicateTree.oneBody]

theorem pending_before_appended :
    let s := (empty false).run halfway
    let t := (s.apply (.append 0 (withBodies 1))).2
    let handed := t.calls 1 [.answer PredicateTree.oneBody, .answer PredicateTree.oneBody]
    (s.apply (.append 0 (withBodies 1))).1 = .ok (.appended 1) ∧
    (empty false).Unreplaced halfway 1 ∧
    (t.statistics.find? fun figures => figures.id = 1) = some ⟨1, 1, 3, 1⟩ ∧
    (∃ selection, handed[1]? = some (some selection) ∧ selection.place = 2) ∧
    ∃ j < 1, ∃ earlier, handed[j]? = some (some earlier) ∧ earlier.place = 1 := by
  intro s t handed
  have ok : (s.apply (.append 0 (withBodies 1))).1 = .ok (.appended 1) := rfl
  have unreplaced : (empty false).Unreplaced halfway 1 :=
    ⟨[], halfway, rfl, by simp [halfway], .inl (by simp [run, empty, ids])⟩
  obtain ⟨known, -, named, listed, old, new, before, now, -, turns⟩ :=
    append_keeps_turn false halfway ok
  have oldFigures : (s.statistics.find? fun figures => figures.id = 1) = some ⟨1, 1, 2, 1⟩ := by
    decide +kernel
  have newFigures : (t.statistics.find? fun figures => figures.id = 1) = some ⟨1, 1, 3, 1⟩ := by
    decide +kernel
  obtain rfl := Option.some.inj (before.symm.trans oldFigures)
  obtain rfl := Option.some.inj (now.symm.trans newFigures)
  obtain ⟨-, -, unchanged, pending⟩ := turns (by decide)
  have places : handed[1]?.map (Option.map Selection.place) = some (some 2) := by decide +kernel
  obtain ⟨answer, there, given⟩ := Option.map_eq_some_iff.mp places
  obtain ⟨selection, rfl, place⟩ := Option.map_eq_some_iff.mp given
  have kept : ∀ seen rest, [PredicateTree.oneBody, PredicateTree.oneBody].map .answer =
      seen ++ rest → (t.run seen).Lists 1 (extended known (withBodies 1).responses).definition := by
    intro seen rest split
    obtain ⟨answered, _, -, rfl, -⟩ := List.map_eq_append_iff.mp split
    have still := stubs_run_answers t answered
    exact ⟨extended known (withBodies 1).responses, by rw [still]; exact listed, named, rfl⟩
  refine ⟨ok, unreplaced, newFigures, ⟨selection, there, place⟩, ?_⟩
  exact pending (unchanged unreplaced) _ kept 1 selection there (Nat.le_of_eq place.symm) 1
    (Nat.le_refl 1) (by decide)

/-- The third of three responses is next when a definition with two takes their place. -/
def shortened : List StoreEvent :=
  [.edit (.replaceAll [withPath, withBodies 3]), .answer PredicateTree.oneBody,
    .answer PredicateTree.oneBody, .edit (.replace 1 (withBodies 2))]

/-- The cursor of a shortened stub returns to where it was left, and the stub hands out a response
    that was appended before the two that it has. -/
theorem stale_cursor_returns :
    let s := (empty false).run shortened
    let t := (s.apply (.append 0 (withBodies 1))).2
    (s.apply (.append 0 (withBodies 1))).1 = .ok (.appended 1) ∧
    (s.statistics.find? fun figures => figures.id = 1) = some ⟨1, 2, 2, 0⟩ ∧
    (t.statistics.find? fun figures => figures.id = 1) = some ⟨1, 2, 3, 2⟩ ∧
    (t.resolve PredicateTree.oneBody).1.map Selection.place = some 2 :=
  ⟨rfl, by decide +kernel, by decide +kernel, by decide +kernel⟩

end Store

end VirtualService
