/-
  VirtualService/Proofs/Held.lean
  ===============================
  **What someone sees who keeps a list of stubs.**

  The list that was taken from a store stays as it was, whatever becomes of the store;
  the states in it are those of the store and go on changing.  So a stub of the list
  shows the state of the stub that is listed now under its identity, also after its
  definition has been changed (`Later.cell_eq`).  Once a stub has been taken out, no
  request and no command reaches its cell any more (`stateAt_after_unlisted`), since
  whoever is listed has a cell of its own; all that can still come in is the record of
  a request that was being answered for it.
-/
import VirtualService.Proofs.Pending
import VirtualService.Proofs.Statistics

namespace VirtualService

/-- What is seen of a stub. -/
structure StubView where
  id : Nat
  definition : StubDefinition
  tree : PredicateTree
  state : StubState

/-- What an edit of a stub may change in the list, but never in one that was taken before. -/
def StubView.authored (v : StubView) : Nat × StubDefinition × PredicateTree :=
  (v.id, v.definition, v.tree)

namespace Store

/-- A stub, listed or kept, as it is seen with the states of a store. -/
def view (s : Store) (stub : Stub) : StubView :=
  ⟨stub.id, stub.definition, stub.tree, s.stateAt stub.cell⟩

/-- The matches that are kept in a cell, whether or not its stub is listed. -/
def remembered (cell : Nat) (events : List StoreEvent) : List MatchRecord :=
  events.filterMap fun event =>
    match event with
    | .remember other record => if other = cell then some record else none
    | .edit _ | .answer _ | .forget _ => none

theorem remembered_cons (cell : Nat) (event : StoreEvent) (events : List StoreEvent) :
    remembered cell (event :: events) = remembered cell [event] ++ remembered cell events := by
  simp only [remembered, List.filterMap_cons, List.filterMap_nil]
  split <;> rfl

theorem remembered_eq_nil {cell : Nat} {events : List StoreEvent}
    (none : ∀ record, .remember cell record ∉ events) : remembered cell events = [] := by
  rw [remembered, List.filterMap_eq_nil_iff]
  intro event mem
  cases event with
  | remember other record =>
    refine if_neg fun same => none record ?_
    rwa [← same]
  | _ => rfl

variable {s : Store} {stub : Stub} {events : List StoreEvent}

/-! ### Stubs that are not listed any more -/

/-- An event reaches the cell of a stub that is not listed only to keep a match in it. -/
theorem stateAt_after_unlisted (knew : s.Knew stub) (unlisted : stub.id ∉ s.ids)
    (event : StoreEvent) :
    (s.after event).stateAt stub.cell =
      { s.stateAt stub.cell with
        records := (s.stateAt stub.cell).records ++ remembered stub.cell [event] } := by
  -- whoever is listed has another cell
  have apart {listed : Stub} (mem : listed ∈ s.stubs) : listed.cell ≠ stub.cell := by
    intro same
    have named := (knew.cell_eq_iff mem).mp same.symm
    exact unlisted (mem_ids.mpr ⟨listed, mem, named.symm⟩)
  cases event with
  | edit command => simp [after, stateAt_apply, remembered]
  | answer request =>
    have same : (s.resolve request).2.stateAt stub.cell = s.stateAt stub.cell := by
      rw [resolve]
      split
      · rfl
      · next first => exact stateAt_answerFrom_ne s (apart (firstMatch_mem first))
    simp [after, same, remembered]
  | remember cell record =>
    by_cases same : cell = stub.cell
    · rw [after, same, stateAt_modifyState_self knew.held]
      simp [StubState.record, remembered]
    · rw [after, stateAt_modifyState_ne s same]
      simp [remembered, same]
  | forget id =>
    have same : (s.clearStatistics id).2.stateAt stub.cell = s.stateAt stub.cell := by
      rw [clearStatistics]
      split
      · next listed found =>
        exact stateAt_modifyState_ne s (apart (List.mem_of_find?_eq_some found)) _
      · rfl
    simp [after, same, remembered]

theorem stateAt_run_unlisted (events : List StoreEvent) (knew : s.Knew stub)
    (unlisted : stub.id ∉ s.ids) :
    (s.run events).stateAt stub.cell =
      { s.stateAt stub.cell with
        records := (s.stateAt stub.cell).records ++ remembered stub.cell events } := by
  induction events generalizing s with
  | nil => simp [run, remembered]
  | cons event events ih =>
    have step := after_later s event
    have later := ih (knew.later step) (step.not_mem_ids knew.issued unlisted)
    rw [stateAt_after_unlisted knew unlisted] at later
    rw [remembered_cons, ← List.append_assoc]
    exact later

/-! ### Stubs that are taken out -/

/-- Only an edit takes a stub out, and it leaves all states alone. -/
theorem taken_out_by_edit (mem : stub ∈ s.stubs) {event : StoreEvent}
    (gone : stub.id ∉ (s.after event).ids) : ∃ command, event = .edit command := by
  have listed : (s.after event).stubs = s.stubs → stub.id ∈ (s.after event).ids :=
    fun same => mem_ids.mpr ⟨stub, same ▸ mem, rfl⟩
  cases event with
  | edit command => exact ⟨command, rfl⟩
  | answer request => exact absurd (listed (resolve_same s request).stubs_eq) gone
  | remember cell record => exact absurd (listed rfl) gone
  | forget id => exact absurd (listed (clearStatistics_same s id).stubs_eq) gone

/-- A stub that is not listed any more was taken out by some edit, and its state is the one that it
    had then, with the matches that have been kept since. -/
theorem Sound.taken_out (sound : s.Sound) (mem : stub ∈ s.stubs)
    (gone : stub.id ∉ (s.run events).ids) :
    ∃ seen command rest, events = seen ++ .edit command :: rest ∧
      (∃ live ∈ (s.run seen).stubs, live.id = stub.id ∧ live.cell = stub.cell) ∧
      stub.id ∉ ((s.run seen).apply command).2.ids ∧
      (s.run events).stateAt stub.cell =
        { (s.run seen).stateAt stub.cell with
          records := ((s.run seen).stateAt stub.cell).records ++ remembered stub.cell rest } := by
  induction events generalizing s stub with
  | nil => exact absurd (mem_ids.mpr ⟨stub, mem, rfl⟩) gone
  | cons event events ih =>
    have step := after_later s event
    by_cases still : stub.id ∈ (s.after event).ids
    · obtain ⟨next, memNext, same⟩ := mem_ids.mp still
      have cell := step.cell_eq sound mem memNext same.symm
      obtain ⟨seen, command, rest, split, there, out, state⟩ :=
        ih (sound.after event) memNext (same.symm ▸ gone)
      rw [same, ← cell] at there
      rw [same] at out
      rw [← cell] at state
      exact ⟨event :: seen, command, rest, by rw [split, List.cons_append], there, out, state⟩
    · obtain ⟨command, rfl⟩ := taken_out_by_edit mem still
      have state := stateAt_run_unlisted events ((sound.knew mem).later step) still
      rw [Store.after, stateAt_apply] at state
      exact ⟨[], command, events, rfl, ⟨stub, mem, rfl, rfl⟩, still, state⟩

/-! ### Lists that are kept -/

/-- **A list that is kept is frozen, and its states are shared.**  However a store has come about and
    whatever happens to it later: the list of its stubs that someone has kept shows the same
    identities, definitions and compiled predicates in the same order.  A stub of it that is listed
    still, also after a change of its definition, shows the state of the listed one.  One that is not
    was taken out by some command, and shows the state that the listed one had then, with the matches
    that were kept for it since.  Commands and requests keep none, so after these alone it shows just
    that state. -/
theorem held_list (scripts : Bool) (before later : List StoreEvent) :
    let s := (empty scripts).run before
    let t := s.run later
    (s.stubs.map t.view).map StubView.authored = (s.stubs.map s.view).map StubView.authored ∧
    (∀ held ∈ s.stubs, ∀ live ∈ t.stubs, live.id = held.id →
      (t.view held).state = (t.view live).state) ∧
    ∀ held ∈ s.stubs, held.id ∉ t.ids →
      ∃ seen command rest, later = seen ++ .edit command :: rest ∧
        held.id ∉ ((s.run seen).apply command).2.ids ∧
        ∃ live ∈ (s.run seen).stubs, live.id = held.id ∧
          let last := ((s.run seen).view live).state
          (t.view held).state =
            { last with records := last.records ++ remembered held.cell rest } ∧
          ((∀ record, .remember held.cell record ∉ later) → (t.view held).state = last) := by
  intro s t
  have sound : s.Sound := (sound_empty scripts).run before
  refine ⟨?_, ?_, ?_⟩
  · rw [List.map_map, List.map_map]
    exact List.map_congr_left fun _ _ => rfl
  · intro held memHeld live memLive same
    have cell := (run_later s later).cell_eq sound memHeld memLive same.symm
    exact congrArg t.stateAt cell
  · intro held mem gone
    obtain ⟨seen, command, rest, split, ⟨live, there, id, cell⟩, out, state⟩ :=
      sound.taken_out mem gone
    refine ⟨seen, command, rest, split, out, live, there, id, ?_⟩
    simp only [view, cell]
    refine ⟨state, fun none => ?_⟩
    have nothing : remembered held.cell rest = [] := by
      refine remembered_eq_nil fun record mem => none record ?_
      rw [split]
      exact List.mem_append_right _ (List.mem_cons_of_mem _ mem)
    rwa [nothing, List.append_nil] at state

/-- A stub answers, gets a shorter definition, answers again and is taken out, and a new one takes
    its place and answers as well. -/
def replacedAndRemoved : List StoreEvent :=
  [.answer PredicateTree.oneBody, .edit (.replace 1 (withBodies 1)),
    .answer PredicateTree.oneBody, .edit (.remove 1), .edit (.insert (withBodies 1) none),
    .answer PredicateTree.oneBody]

example :
    let s := (empty false).run [.edit (.replaceAll [withPath, withBodies 2])]
    let t := s.run replacedAndRemoved
    (s.stubs.map t.view).map (fun v => (v.id, v.definition.responses.length, v.state.matched)) =
      [(0, 1, 0), (1, 2, 2)] ∧
    (t.stubs.map t.view).map (fun v => (v.id, v.definition.responses.length, v.state.matched)) =
      [(0, 1, 0), (2, 1, 1)] := by
  decide +kernel

end Store

end VirtualService
