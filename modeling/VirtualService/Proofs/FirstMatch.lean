/-
  VirtualService/Proofs/FirstMatch.lean
  =====================================
  **The first match answers, and touches nothing else.**

  A request is answered by the first stub whose predicates recognise it.  What a
  predicate recognises is a matter of the definition and the request alone
  (`StubDefinition.recognises`): the compiled trees that a store keeps are those of
  its definitions (`Store.Sound.compiled`), and the readings that the stubs share do
  not change what the trees say (`Store.firstMatch_plain`).  What the answer does to
  the store is one change of one cell (`answerFrom_bare`, `answerFrom_some`), and the
  place that is selected is the one that the statistics show, also where the cursor
  has been left beyond the end of a shorter list of responses
  (`Cursor.place_select`).
-/
import VirtualService.Proofs.Cycling
import VirtualService.Proofs.Readings

namespace VirtualService

/-- The authored predicates of a stub recognise a request: they compile, and all of them hold, every
    text being read anew. -/
def StubDefinition.recognises (scripts : Bool) (d : StubDefinition) (request : Request) : Bool :=
  match PredicateTree.compile scripts d.predicates with
  | .ok tree => tree.holds request
  | .error _ => false

/-! ### The place that is shown and the one that is selected -/

namespace Cursor

variable {count : UInt32}

/-- Wherever a cursor has been left, it shows a place within the responses. -/
theorem peek_lt (some : count ≠ 0) (c : Cursor) : c.peek count < count := by
  unfold peek within
  split
  · exact UInt32.pos_iff_ne_zero.mpr some
  · next inside => exact UInt32.not_le.mp inside

theorem place_select (some : count ≠ 0) (c : Cursor) (repeats : UInt32 → Option UInt32) :
    (c.select count repeats).1 = c.peek count := by
  rw [select, if_neg some, peek]

end Cursor

namespace Stub

variable (stub : Stub)

theorem responseCount_toNat_eq :
    stub.responseCount.toNat = min stub.definition.responses.length 4294967295 := by
  have small : min stub.definition.responses.length 4294967295 < UInt32.size :=
    Nat.lt_of_le_of_lt (Nat.min_le_right _ _) (by decide)
  rw [responseCount, UInt32.toNat_ofNat_of_lt' small]

variable {stub}

theorem responseCount_ne_zero (some : stub.definition.responses ≠ []) : stub.responseCount ≠ 0 := by
  intro zero
  have count := stub.responseCount_toNat_eq
  have length := List.length_pos_iff.mpr some
  rw [zero, UInt32.toNat_zero] at count
  omega

end Stub

namespace Store

variable {s : Store} {stub : Stub}

/-! ### What an answer changes -/

theorem answerFrom_bare (s : Store) (bare : stub.definition.responses = []) :
    s.answerFrom stub = (none, s.modifyState stub.cell StubState.countMatch) := by
  unfold answerFrom
  rw [bare]

/-- The cursor of a stub once it has handed out one more response. -/
def cursorAfter (s : Store) (stub : Stub) : Cursor :=
  ((s.stateAt stub.cell).cursor.select stub.responseCount stub.repeatsAt).2

/-- A stub with responses hands out the one that its statistics announce. -/
theorem answerFrom_some (s : Store) (some : stub.definition.responses ≠ []) :
    ∃ response, stub.definition.responses[(s.statisticsOf stub).next]? = Option.some response ∧
      s.answerFrom stub = (Option.some ⟨stub, (s.statisticsOf stub).next, response⟩,
        s.modifyState stub.cell fun state =>
          { state.countMatch with cursor := s.cursorAfter stub }) := by
  have count := Stub.responseCount_ne_zero some
  have inside : (s.statisticsOf stub).next < stub.definition.responses.length := by
    have shown := UInt32.lt_iff_toNat_lt.mp ((s.stateAt stub.cell).cursor.peek_lt count)
    have counted := stub.responseCount_toNat_eq
    show ((s.stateAt stub.cell).cursor.peek stub.responseCount).toNat < _
    omega
  have there := List.getElem?_eq_getElem inside
  refine ⟨_, there, Prod.ext ?_ ?_⟩
  · rw [answerFrom_eq, Cursor.place_select count]
    rw [List.head?_eq_some_head some, Option.map_some]
    show Option.some (Selection.mk stub (s.statisticsOf stub).next
      (stub.definition.responses.getD (s.statisticsOf stub).next _)) = _
    rw [List.getD_eq_getElem?_getD, there, Option.getD_some]
  · unfold answerFrom
    split
    · next nothing => exact absurd nothing some
    · -- the count and the cursor are changed one after the other, in the same cell
      show { s with cells := (s.cells.modify _ _).modify _ _ } = { s with cells := _ }
      rw [List.modify_modify_eq]
      rfl

/-! ### Who answers -/

theorem Sound.recognises (h : s.Sound) (mem : stub ∈ s.stubs) (request : Request) :
    stub.definition.recognises s.scripts request = stub.tree.holds request := by
  rw [StubDefinition.recognises, (h.compiled stub mem).tree]

theorem Sound.resolve_none (h : s.Sound) {request : Request}
    (apart : KeyMatch.folded.Apart request)
    (unrecognised : ∀ stub ∈ s.stubs, stub.definition.recognises s.scripts request = false) :
    s.resolve request = (none, s) := by
  have nobody : firstMatch request s.stubs [] = none := by
    rw [firstMatch_plain apart (Readings.faithful_nil request), List.find?_eq_none]
    intro stub mem
    rw [← h.recognises mem, unrecognised stub mem]
    exact Bool.false_ne_true
  rw [resolve, nobody]

theorem Sound.resolve_first (h : s.Sound) {request : Request}
    (apart : KeyMatch.folded.Apart request) {earlier later : List Stub}
    (split : s.stubs = earlier ++ stub :: later)
    (passed : ∀ other ∈ earlier, other.definition.recognises s.scripts request = false)
    (recognised : stub.definition.recognises s.scripts request = true) :
    s.resolve request = s.answerFrom stub := by
  have mem : stub ∈ s.stubs := split ▸ List.mem_append_right _ List.mem_cons_self
  have first : firstMatch request s.stubs [] = some stub := by
    rw [firstMatch_plain apart (Readings.faithful_nil request), List.find?_eq_some_iff_append]
    refine ⟨h.recognises mem request ▸ recognised, earlier, later, split, fun other there => ?_⟩
    have listed : other ∈ s.stubs := split ▸ List.mem_append_left _ there
    rw [← h.recognises listed, passed other there]
    rfl
  rw [resolve, first]

theorem Sound.statistics_of (h : s.Sound) (mem : stub ∈ s.stubs) :
    (s.statistics.find? fun figures => figures.id = stub.id) = some (s.statisticsOf stub) := by
  have listed : s.find? stub.id = some stub := by
    cases found : s.find? stub.id with
    | none => exact absurd (List.find?_eq_none.mp found stub mem) (by simp)
    | some other =>
      have named : other.id = stub.id := by simpa using List.find?_some found
      rw [h.eq_of_id (List.mem_of_find?_eq_some found) mem named]
  rw [statistics, List.find?_map]
  exact congrArg (Option.map s.statisticsOf) listed

/-- However a store has come about, for a request in which no two fields agree in lower case: if no
    stub recognises it, nothing comes back and nothing changes.  Otherwise the first stub that
    recognises it answers, whichever others recognise it as well.  Without responses it counts the
    match; with some it also hands out the one that its statistics announce, and moves its cursor.
    The list stays as it is, and so do the states of all other stubs and the matches that the stub
    has kept. -/
theorem first_match_answers (scripts : Bool) (events : List StoreEvent) {request : Request}
    (apart : KeyMatch.folded.Apart request) :
    let s := (empty scripts).run events
    let t := (s.resolve request).2
    ((∀ stub ∈ s.stubs, stub.definition.recognises scripts request = false) →
      s.resolve request = (none, s)) ∧
    ∀ (earlier : List Stub) (stub : Stub) (later : List Stub),
      s.stubs = earlier ++ stub :: later →
      (∀ other ∈ earlier, other.definition.recognises scripts request = false) →
      stub.definition.recognises scripts request = true →
      (stub.definition.responses = [] →
        s.resolve request = (none, s.modifyState stub.cell StubState.countMatch)) ∧
      (stub.definition.responses ≠ [] →
        ∃ figures response,
          (s.statistics.find? fun figures => figures.id = stub.id) = some figures ∧
          stub.definition.responses[figures.next]? = some response ∧
          s.resolve request = (some ⟨stub, figures.next, response⟩,
            s.modifyState stub.cell fun state =>
              { state.countMatch with cursor := s.cursorAfter stub })) ∧
      t.stubs = s.stubs ∧
      (t.stateAt stub.cell).matched = (s.stateAt stub.cell).matched + 1 ∧
      (t.stateAt stub.cell).records = (s.stateAt stub.cell).records ∧
      ∀ other ∈ s.stubs, other.id ≠ stub.id → t.stateAt other.cell = s.stateAt other.cell := by
  intro s t
  have sound : s.Sound := (sound_empty scripts).run events
  have injector : s.scripts = scripts := (run_later (empty scripts) events).scripts
  refine ⟨fun unrecognised => sound.resolve_none apart (injector.symm ▸ unrecognised),
    fun earlier stub later split passed recognised => ?_⟩
  have resolved : s.resolve request = s.answerFrom stub :=
    sound.resolve_first apart split (injector.symm ▸ passed) (injector.symm ▸ recognised)
  have mem : stub ∈ s.stubs := split ▸ List.mem_append_right _ List.mem_cons_self
  have held := sound.held stub mem
  have same : t = (s.answerFrom stub).2 := congrArg Prod.snd resolved
  have others : ∀ other ∈ s.stubs, other.id ≠ stub.id →
      t.stateAt other.cell = s.stateAt other.cell := by
    intro other there different
    have otherCell : stub.cell ≠ other.cell := fun shared =>
      different (congrArg Stub.id (sound.eq_of_cell there mem shared.symm))
    rw [same, stateAt_answerFrom_ne s otherCell]
  by_cases bare : stub.definition.responses = []
  · have answer := s.answerFrom_bare bare
    have state : t.stateAt stub.cell = (s.stateAt stub.cell).countMatch := by
      rw [same, answer, stateAt_modifyState_self held]
    rw [answer] at resolved same
    exact ⟨fun _ => resolved, fun some => absurd bare some, same ▸ rfl, state ▸ rfl, state ▸ rfl,
      others⟩
  · obtain ⟨response, turn, answer⟩ := s.answerFrom_some bare
    have state : t.stateAt stub.cell =
        { (s.stateAt stub.cell).countMatch with cursor := s.cursorAfter stub } := by
      rw [same, answer, stateAt_modifyState_self held]
    rw [answer] at resolved same
    exact ⟨fun none => absurd none bare,
      fun _ => ⟨_, response, sound.statistics_of mem, turn, resolved⟩, same ▸ rfl, state ▸ rfl,
      state ▸ rfl, others⟩

/-- A stub for requests with a path. -/
def withPath : StubDefinition :=
  ⟨[.leaf .presence [("path", .bool true)] .default], [.literal .plain none], []⟩

/-- A stub whose cursor stands at its second response gets a definition that has only one, between two
    others. -/
def cursorBeyond : List StoreEvent :=
  [.edit (.insert twoResponses none), .answer [], .answer [],
    .edit (.replace 0 { twoResponses with responses := [.literal .plain none] }),
    .edit (.insert withPath (some 0)), .edit (.insert twoResponses none)]

theorem beyond_starts_over :
    let s := (empty false).run cursorBeyond
    KeyMatch.folded.Apart PredicateTree.oneBody ∧
    (s.resolve PredicateTree.oneBody).1.map (fun answer => (answer.stub.id, answer.place)) =
      some (0, 0) ∧
    ∀ other ∈ s.stubs, other.id ≠ 0 →
      (s.resolve PredicateTree.oneBody).2.stateAt other.cell = s.stateAt other.cell := by
  intro s
  have apart : KeyMatch.folded.Apart PredicateTree.oneBody := by decide +kernel
  have passed : ∀ other ∈ s.stubs.take 1,
      other.definition.recognises false PredicateTree.oneBody = false := by decide +kernel
  have recognised : s.stubs[1].definition.recognises false PredicateTree.oneBody = true := by
    decide +kernel
  obtain ⟨-, answered, -, -, -, others⟩ := (first_match_answers false cursorBeyond apart).2
    (s.stubs.take 1) s.stubs[1] (s.stubs.drop 2) rfl passed recognised
  obtain ⟨figures, response, shown, -, resolved⟩ := answered (by decide +kernel)
  have first : figures.next = 0 := by
    have known : (s.statistics.find? fun figures => figures.id = s.stubs[1].id).map
        StubStatistics.next = some 0 := by decide +kernel
    rw [shown] at known
    exact Option.some.inj known
  refine ⟨apart, ?_, others⟩
  rw [resolved, first]
  rfl

end Store

end VirtualService
