/-
  VirtualService/Proofs/Imposter.lean
  ===================================
  **Imposters that come about from what was read.**

  An imposter is built from a definition that was read, handles requests and is
  edited by commands whose definitions were read too (`Imposter.Reached`).  Its
  store is sound, and every definition in it is one that a reading yields: those
  that proxies have recorded as well, since what a generator selects from a
  well-formed request is well-formed.
-/
import VirtualService.Imposter.Handling
import VirtualService.Proofs.Store
import VirtualService.Proofs.WireFormat

namespace VirtualService

/-! ### Recorded stubs -/

namespace Recording

theorem mem_of_entryOf? {fields : Dict Json} {name : String} {entry : String × Json}
    (found : entryOf? fields name = some entry) : entry ∈ fields := by
  unfold entryOf? at found
  split at found
  · next there =>
    cases found
    exact List.mem_of_find?_eq_some there
  · exact List.mem_of_find?_eq_some found

theorem entryOf?_wellFormed {fields : Dict Json} (h : (Json.obj fields).WellFormed) {name : String}
    {entry : String × Json} (found : entryOf? fields name = some entry) : entry.2.WellFormed :=
  (Json.wellFormed_obj.mp h).2 entry (mem_of_entryOf? found)

theorem membersWithin_wellFormed {value : Json} (h : value.WellFormed) {members : Dict Json}
    (found : membersWithin value = some members) : (Json.obj members).WellFormed := by
  unfold membersWithin at found
  split at found
  · cases found
    exact h
  · split at found
    · next read =>
      cases found
      exact interpret_wellFormed read
    · cases found
  · cases found

mutual

theorem select_wellFormed : ∀ (wanted value : Json), value.WellFormed →
    ∀ part, select value wanted = some part → part.WellFormed
  | .bool true, value, h, part, selected => by
      simp only [select, Option.some.injEq] at selected
      exact selected ▸ h
  | .obj selection, value, h, part, selected => by
      rw [select] at selected
      split at selected
      · next members within =>
        have wf := selectFields_wellFormed selection members []
          (membersWithin_wellFormed h within) Json.wellFormed_nil
        split at selected
        · cases selected
        · next entry rest some =>
          cases selected
          rwa [some] at wf
      · cases selected
  | .bool false, _, _, _, selected => by simp [select] at selected
  | .null, _, _, _, selected => by simp [select] at selected
  | .num _, _, _, _, selected => by simp [select] at selected
  | .str _, _, _, _, selected => by simp [select] at selected
  | .arr _, _, _, _, selected => by simp [select] at selected

theorem selectFields_wellFormed : ∀ (selection : List (String × Json)) (fields selected : Dict Json),
    (Json.obj fields).WellFormed → (Json.obj selected).WellFormed →
      (Json.obj (selectFields fields selection selected)).WellFormed
  | [], _, _, _, h => h
  | (name, wanted) :: selection, fields, selected, hf, h => by
      rw [selectFields]
      split
      · next key value found =>
        have valueWf := entryOf?_wellFormed hf found
        split
        · next part taken =>
          exact selectFields_wellFormed selection fields _ hf
            (h.insert key (select_wellFormed wanted value valueWf part taken))
        · exact selectFields_wellFormed selection fields selected hf h
      · exact selectFields_wellFormed selection fields selected hf h

end

theorem default_wellFormed : PredicateOptions.default.WellFormed := by
  simp [PredicateOptions.default, PredicateOptions.WellFormed]

theorem defaultPredicates_wellFormed {request : Request} (h : (Json.obj request).WellFormed) :
    ∀ p ∈ defaultPredicates request, p.WellFormed := by
  have kept : (Json.obj (request.filter fun entry => !unmatched.contains entry.1)).WellFormed :=
    h.filter _
  unfold defaultPredicates
  split
  · simp
  · next field fields some =>
    rw [some] at kept
    intro p mem
    rw [List.mem_singleton.mp mem]
    exact ⟨kept, default_wellFormed⟩

theorem generated_wellFormed {request : Request} (h : (Json.obj request).WellFormed)
    {g : PredicateGenerator} (hg : g.WellFormed) {p : Predicate}
    (made : generated request g = some p) : p.WellFormed := by
  have fieldsWf := selectFields_wellFormed g.selection request [] h Json.wellFormed_nil
  unfold generated at made
  split at made
  · cases made
  · next field fields some =>
    cases made
    rw [some] at fieldsWf
    exact ⟨fieldsWf, hg.2⟩

theorem predicates_wellFormed {request : Request} (h : (Json.obj request).WellFormed)
    {generators : List PredicateGenerator} (hg : ∀ g ∈ generators, g.WellFormed) :
    ∀ p ∈ predicates request generators, p.WellFormed := by
  cases generators with
  | nil => exact defaultPredicates_wellFormed h
  | cons g gs =>
    intro p mem
    obtain ⟨made, there, from'⟩ := List.mem_filterMap.mp mem
    exact generated_wellFormed h (hg made there) from'

/-- What a proxy records of a well-formed request and a well-formed answer is well-formed. -/
theorem stub_wellFormed {request : Request} (h : (Json.obj request).WellFormed)
    {target : ProxyTarget} (ht : target.WellFormed) {response : LiteralResponse}
    (hr : response.WellFormed) :
    (stub (predicates request target.generators) response).WellFormed where
  predicates := predicates_wellFormed h ht.generators
  responses := by
    intro r mem
    rw [List.mem_singleton.mp mem]
    exact ⟨hr, by simp⟩
  records := by simp [stub]

end Recording

/-! ### Selected responses -/

namespace Store

/-- A selection is of the stub that answers, and of one of its responses. -/
theorem answerFrom_selection {s : Store} {stub : Stub} {selection : Selection}
    (h : (s.answerFrom stub).1 = some selection) :
    selection.stub = stub ∧ selection.response ∈ stub.definition.responses := by
  rw [answerFrom_eq] at h
  obtain ⟨first, head, rfl⟩ := Option.map_eq_some_iff.mp h
  refine ⟨rfl, ?_⟩
  dsimp only
  rw [List.getD_eq_getElem?_getD]
  cases there : stub.definition.responses[((s.stateAt stub.cell).cursor.select stub.responseCount
      stub.repeatsAt).1.toNat]? with
  | none => exact List.mem_of_head? head
  | some response => exact List.mem_of_getElem? there

theorem resolve_selection {s : Store} {request : Request} {selection : Selection}
    (h : (s.resolve request).1 = some selection) :
    selection.stub ∈ s.stubs ∧ selection.response ∈ selection.stub.definition.responses := by
  unfold resolve at h
  split at h
  · cases h
  · next stub first =>
    obtain ⟨rfl, mem⟩ := answerFrom_selection h
    exact ⟨firstMatch_mem first, mem⟩

end Store

/-! ### Soundness -/

/-- What happens while a request waits brings in only what was read. -/
structure Exchange.Authored (e : Exchange) : Prop where
  edits : ∀ command ∈ e.edits, ∀ d ∈ command.definitions, StubDefinition.decode.Reads d
  reply : ∀ response, e.reply = .response response → LiteralResponse.decode.Reads response

namespace Imposter

/-- An imposter with what is at its disposal: it is open, its store is sound, and all definitions in
    it are ones that a reading yields. -/
structure Sound (c : Capabilities) (i : Imposter) : Prop where
  capabilities : i.capabilities = c
  scripts : i.store.scripts = c.scripts
  opened : i.closed = false
  defaultResponse : i.defaultResponse.WellFormed
  store : i.store.Sound
  definitions : ∀ stub ∈ i.store.stubs, stub.definition.WellFormed

variable {c : Capabilities} {i : Imposter}

/-- What stands beside the store, the requests and their number stays as it is. -/
def SameButStore (i i' : Imposter) : Prop :=
  ∃ store requests count, i' = { i with store := store, requests := requests, count := count }

theorem SameButStore.symm {i j : Imposter} (ij : i.SameButStore j) : j.SameButStore i := by
  obtain ⟨_, _, _, rfl⟩ := ij
  exact ⟨i.store, i.requests, i.count, rfl⟩

theorem SameButStore.trans {i j k : Imposter} (ij : i.SameButStore j) (jk : j.SameButStore k) :
    i.SameButStore k := by
  obtain ⟨_, _, _, rfl⟩ := ij
  obtain ⟨store, requests, count, rfl⟩ := jk
  exact ⟨store, requests, count, rfl⟩

/-- Soundness is a matter of the store where nothing else changes. -/
theorem Sound.ofStore {i' : Imposter} (h : i.Sound c) (same : i.SameButStore i')
    (states : i.store.SameButStates i'.store) : i'.Sound c := by
  obtain ⟨store, requests, count, rfl⟩ := same
  have sound := states.sound h.store
  obtain ⟨cells, length, equal⟩ := states
  dsimp only at equal sound
  subst equal
  exact ⟨h.capabilities, h.scripts, h.opened, h.defaultResponse, sound, h.definitions⟩

theorem remember_same (i : Imposter) (stub : Stub) (now : Timestamp) (request : Request)
    (response : LiteralResponse) :
    i.SameButStore (i.remember stub now request response) ∧
      i.store.SameButStates (i.remember stub now request response).store := by
  unfold remember
  split
  · exact ⟨⟨_, i.requests, i.count, rfl⟩, Store.modifyState_same _ _ _⟩
  · exact ⟨⟨i.store, i.requests, i.count, rfl⟩, .refl _⟩

/-- The imposter once it has accepted a request and its store has been asked. -/
def asked (i : Imposter) (now : Timestamp) (request : Request) : Imposter :=
  { i.accept now request with store := (i.store.resolve request).2 }

/-- How a request is begun, by the selection that the store makes. -/
theorem begin_opened (opened : i.closed = false) (now : Timestamp) (request : Request) :
    i.begin now request =
      match (i.store.resolve request).1 with
      | none =>
          (.finished (.ok ⟨i.defaultResponse, .default⟩), i.asked now request,
            [.resolution Outcome.default.label])
      | some selected =>
          match selected.response with
          | .literal response _ =>
              (.finished (.ok ⟨response, .matched selected.stub.id selected.place⟩),
                (i.asked now request).remember selected.stub now request response,
                [.resolution (Outcome.matched selected.stub.id selected.place).label])
          | .proxy target =>
              if i.capabilities.brokered then
                (.waiting ⟨selected.stub, target⟩, i.asked now request, [])
              else
                (.finished (.error (.resolve .noProxyBroker)), i.asked now request,
                  [.resolution "error"]) := by
  simp only [begin, opened, Bool.false_eq_true, if_false]
  rfl

theorem begin_closed (closed : i.closed = true) (now : Timestamp) (request : Request) :
    i.begin now request = (.finished (.error (.imposter (.closed i.port))), i, []) := by
  simp only [begin, closed, if_true]

theorem asked_same (i : Imposter) (now : Timestamp) (request : Request) :
    i.SameButStore (i.asked now request) ∧ i.store.SameButStates (i.asked now request).store :=
  ⟨⟨_, _, _, rfl⟩, Store.resolve_same i.store request⟩

theorem begin_same (i : Imposter) (now : Timestamp) (request : Request) :
    i.SameButStore (i.begin now request).2.1 ∧
      i.store.SameButStates (i.begin now request).2.1.store := by
  obtain ⟨same, states⟩ := asked_same i now request
  cases closed : i.closed with
  | true =>
    rw [begin_closed closed]
    exact ⟨⟨i.store, i.requests, i.count, rfl⟩, .refl _⟩
  | false =>
    rw [begin_opened closed]
    split
    · exact ⟨same, states⟩
    · next selected _ =>
      split
      · next response _ _ =>
        have kept := remember_same (i.asked now request) selected.stub now request response
        exact ⟨same.trans kept.1, states.trans kept.2⟩
      · split
        · exact ⟨same, states⟩
        · exact ⟨same, states⟩

/-- A request waits for a proxy among the responses of a stub that is listed. -/
theorem begin_waiting {now : Timestamp} {request : Request} {w : Waiting}
    (h : (i.begin now request).1 = .waiting w) :
    w.stub ∈ i.store.stubs ∧ .proxy w.target ∈ w.stub.definition.responses := by
  cases closed : i.closed with
  | true =>
    rw [begin_closed closed] at h
    cases h
  | false =>
    rw [begin_opened closed] at h
    split at h
    · cases h
    · next selected found =>
      obtain ⟨mem, among⟩ := Store.resolve_selection found
      split at h
      · cases h
      · next target proxy =>
        split at h
        · cases h
          exact ⟨mem, proxy ▸ among⟩
        · cases h

/-- Definitions stay well-formed if those that a command carries are. -/
theorem edit_definitions {command : StoreCommand}
    (there : ∀ stub ∈ i.store.stubs, stub.definition.WellFormed)
    (carried : ∀ d ∈ command.definitions, d.WellFormed) :
    ∀ stub ∈ (i.edit command).2.store.stubs, stub.definition.WellFormed := by
  intro stub mem
  rcases (Store.apply_edited i.store command).definitions mem with
    ⟨a, old, same⟩ | ⟨d, brought, same⟩ | ⟨a, old, d, brought, same⟩
  · rw [same]
    exact there a old
  · have wf := carried d brought
    rw [same]
    exact ⟨wf.predicates, wf.responses, by simp⟩
  · have wf := there a old
    rw [same]
    refine ⟨wf.predicates, fun r memR => ?_, wf.records⟩
    rcases List.mem_append.mp memR with before | more
    · exact wf.responses r before
    · exact (carried d brought).responses r more

theorem Sound.edit (h : i.Sound c) {command : StoreCommand}
    (hc : ∀ d ∈ command.definitions, d.WellFormed) : (i.edit command).2.Sound c := by
  have edited := Store.apply_edited i.store command
  exact ⟨h.capabilities, edited.later.scripts.trans h.scripts, h.opened, h.defaultResponse,
    edited.sound h.store, edit_definitions h.definitions hc⟩

theorem Sound.editAll (h : i.Sound c) {commands : List StoreCommand}
    (hc : ∀ command ∈ commands, ∀ d ∈ command.definitions, d.WellFormed) :
    (i.editAll commands).Sound c := by
  induction commands generalizing i with
  | nil => exact h
  | cons command commands ih =>
    exact ih (h.edit (hc command List.mem_cons_self)) fun other mem =>
      hc other (List.mem_cons_of_mem _ mem)

theorem recordingCommand_wellFormed {request : Request} (hq : (Json.obj request).WellFormed)
    {w : Waiting} (ht : w.target.WellFormed) {response : LiteralResponse}
    (hr : response.WellFormed) {command : StoreCommand}
    (h : recordingCommand request w response = some command) :
    ∀ d ∈ command.definitions, d.WellFormed := by
  have recorded := Recording.stub_wellFormed hq ht hr
  unfold recordingCommand at h
  split at h
  · cases h
    simpa [StoreCommand.definitions] using recorded
  · cases h
    simpa [StoreCommand.definitions] using recorded
  · cases h

/-! ### Handling -/

theorem Sound.remember (h : i.Sound c) (stub : Stub) (now : Timestamp) (request : Request)
    (response : LiteralResponse) : (i.remember stub now request response).Sound c :=
  h.ofStore (remember_same i stub now request response).1
    (remember_same i stub now request response).2

theorem Sound.recordAnswer (h : i.Sound c) {request : Request} (hq : (Json.obj request).WellFormed)
    {w : Waiting} (ht : w.target.WellFormed) {response : LiteralResponse}
    (hr : response.WellFormed) : (i.recordAnswer request w response).2.1.Sound c := by
  unfold Imposter.recordAnswer
  split
  · exact h
  · next command recording =>
    exact h.edit (recordingCommand_wellFormed hq ht hr recording)

theorem Sound.complete (h : i.Sound c) (now : Timestamp) {request : Request}
    (hq : (Json.obj request).WellFormed) {w : Waiting} (ht : w.target.WellFormed)
    {reply : ProxyReply} (hr : ∀ response, reply = .response response → response.WellFormed)
    (latency : Double) : (i.complete now request w reply latency).2.1.Sound c := by
  unfold Imposter.complete
  dsimp only
  split
  · exact h
  · next response answered =>
    refine (h.recordAnswer hq ht ?_).remember _ _ _ _
    cases reply with
    | response r =>
      cases answered
      exact hr response rfl
    | _ => cases answered

theorem Sound.handle (h : i.Sound c) (now : Timestamp) {request : Request}
    (hq : (Json.obj request).WellFormed) {ask : ProxyTarget → Exchange}
    (authored : ∀ target, (ask target).Authored) : (i.handle now request ask).2.1.Sound c := by
  obtain ⟨same, states⟩ := begin_same i now request
  have begun : (i.begin now request).2.1.Sound c := h.ofStore same states
  unfold Imposter.handle
  split
  · next started =>
    rw [started] at begun
    exact begun
  · next w i' measured started =>
    rw [started] at begun
    obtain ⟨mem, among⟩ := begin_waiting (i := i) (congrArg Prod.fst started)
    have target : w.target.WellFormed := (h.definitions w.stub mem).responses _ among
    have exchange := authored w.target
    refine Sound.complete (begun.editAll fun command there d carried => ?_) now hq target
      (fun response answer => ?_) _
    · exact StubDefinition.decode_yields.of_reads (exchange.edits command there d carried)
    · exact LiteralResponse.decode_yields.of_reads (exchange.reply response answer)

/-! ### Imposters that have come about -/

/-- The imposters with what is at their disposal that come about from a definition that was read, by
    requests, whatever their outcome, and by commands, whether or not they succeed.  The answers of
    origins were read, too.  The definitions that commands carry, those applied while a request waits
    included, are `Given`. -/
inductive Reached (c : Capabilities) (Given : StubDefinition → Prop) : Imposter → Prop
  | built {d : ImposterDefinition} {i : Imposter} (read : ImposterDefinition.decode.Reads d)
      (built : build c d = .ok i) : Reached c Given i
  | handled {i : Imposter} (reached : Reached c Given i) (now : Timestamp) {request : Request}
      (wf : (Json.obj request).WellFormed) {ask : ProxyTarget → Exchange}
      (given : ∀ target, ∀ command ∈ (ask target).edits, ∀ d ∈ command.definitions, Given d)
      (replied : ∀ target response, (ask target).reply = .response response →
        LiteralResponse.decode.Reads response) :
      Reached c Given (i.handle now request ask).2.1
  | edited {i : Imposter} (reached : Reached c Given i) {command : StoreCommand}
      (given : ∀ d ∈ command.definitions, Given d) : Reached c Given (i.edit command).2

theorem build_sound {d : ImposterDefinition} (wf : d.WellFormed) (built : build c d = .ok i) :
    i.Sound c := by
  unfold build at built
  have edited := Store.apply_edited (Store.empty c.scripts) (.replaceAll d.stubs)
  split at built
  · cases built
  · next change store applied =>
    rw [applied] at edited
    cases built
    refine ⟨rfl, edited.later.scripts, rfl, ?_, edited.sound (Store.sound_empty c.scripts),
      fun stub mem => ?_⟩
    · cases said : d.defaultResponse with
      | none => exact LiteralResponse.plain_wellFormed
      | some response => exact wf.defaultResponse response said
    · rcases edited.definitions mem with ⟨a, old, -⟩ | ⟨s, brought, same⟩ | ⟨a, old, -⟩
      · simp [Store.empty] at old
      · have stubWf := wf.stubs s brought
        rw [same]
        exact ⟨stubWf.predicates, stubWf.responses, by simp⟩
      · simp [Store.empty] at old

theorem Reached.sound (h : Reached c StubDefinition.decode.Reads i) : i.Sound c := by
  induction h with
  | built read built => exact build_sound (ImposterDefinition.decode_yields.of_reads read) built
  | handled reached now wf given replied ih =>
    exact ih.handle now wf fun target => ⟨given target, replied target⟩
  | edited reached given ih =>
    exact ih.edit fun d mem => StubDefinition.decode_yields.of_reads (given d mem)

end Imposter

end VirtualService
