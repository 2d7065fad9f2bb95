/-
  VirtualService/Proofs/InFlight.lean
  ===================================
  **What is recorded of an answer that comes late.**

  While an origin is asked the stubs may be edited: the stub of the proxy may have
  been moved, changed or taken out when the answer comes.  What is recorded goes by
  the list as it is then.  If the stub is still listed and what is generated of the
  request compiles, the list changes by the recording alone (`RecordedAt`); if not,
  it stays as the edits have left it.
-/
import VirtualService.Proofs.Grouping
import VirtualService.Proofs.Replay
import VirtualService.Proofs.Traffic

namespace VirtualService

/-! ### Where a recording stands -/

/-- One list of stubs is another with an answer recorded for the stub of a proxy, as its mode has it:
    the new stub stands in the list, or another has taken the answer. -/
inductive RecordedAt (proxy : Nat) (answer : LiteralResponse) (new : Stub) :
    ProxyMode → List Stub → List Stub → Nat → Prop
  /-- The new stub stands directly before the proxy. -/
  | before {earlier later : List Stub} {p : Stub} (named : p.id = proxy) :
      RecordedAt proxy answer new .once (earlier ++ p :: later) (earlier ++ new :: p :: later) new.id
  /-- The first stub behind the proxy that has the same predicates, and some, has one response more,
      the last, and that is the answer. -/
  | extended {earlier between later : List Stub} {p known : Stub} (named : p.id = proxy)
      (others : ∀ other ∈ between, Store.hasPredicates other new.definition = false)
      (same : Store.hasPredicates known new.definition = true) :
      RecordedAt proxy answer new .always (earlier ++ p :: (between ++ known :: later))
        (earlier ++ p :: (between ++ { known with definition := { known.definition with
          responses := known.definition.responses ++ [.literal answer none] } } :: later)) known.id
  /-- There is no such stub, and the new one stands directly behind the proxy. -/
  | behind {earlier later : List Stub} {p : Stub} (named : p.id = proxy)
      (others : ∀ other ∈ later, Store.hasPredicates other new.definition = false) :
      RecordedAt proxy answer new .always (earlier ++ p :: later) (earlier ++ p :: new :: later) new.id

namespace Store

variable {s : Store} {id : Nat} {d : StubDefinition}

theorem split_of_listed (listed : id ∈ s.ids) :
    ∃ earlier p later, s.stubs = earlier ++ p :: later ∧ p.id = id := by
  obtain ⟨p, mem, named⟩ := mem_ids.mp listed
  obtain ⟨earlier, later, split⟩ := List.append_of_mem mem
  exact ⟨earlier, p, later, split, named⟩

theorem indexOf_unlisted (unlisted : id ∉ s.ids) : s.indexOf id = .error (.stubNotFound id) := by
  have nowhere : s.stubs.findIdx? (fun stub => stub.id = id) = none := by
    rw [List.findIdx?_eq_none_iff]
    intro stub mem
    exact decide_eq_false fun named => unlisted (mem_ids.mpr ⟨stub, mem, named⟩)
  rw [indexOf, nowhere]

/-- Where an item is the first that is wanted, it is the one to be changed. -/
theorem modify_first {wanted : Stub → Bool} {between later : List Stub} {known : Stub}
    (f : Stub → Stub) (others : ∀ other ∈ between, wanted other = false) (here : wanted known = true) :
    (between ++ known :: later).modify ((between ++ known :: later).findIdx wanted) f =
      between ++ f known :: later := by
  have place : (between ++ known :: later).findIdx wanted = between.length + 0 := by
    have passed : between.findIdx wanted = between.length := by
      rw [List.findIdx_eq_length]
      exact others
    rw [List.findIdx_append, passed, if_neg (Nat.lt_irrefl _), List.findIdx_cons, here]
    exact Nat.add_comm ..
  rw [place, modify_split]
  rfl

/-- A recording whose stub is gone, or whose predicates do not compile, leaves the list as it is. -/
theorem apply_record_fails {command : StoreCommand}
    (recording : command = .record id d ∨ command = .append id d)
    (fails : id ∉ s.ids ∨ ∀ tree, PredicateTree.compile s.scripts d.predicates ≠ .ok tree) :
    ∃ e, (s.apply command).1 = .error e ∧ (s.apply command).2.stubs = s.stubs := by
  cases made : PredicateTree.compile s.scripts d.predicates with
  | error e =>
    refine ⟨.definition e, ?_⟩
    rcases recording with rfl | rfl <;> simp [apply, enlist_error made]
  | ok tree =>
    have unlisted := fails.resolve_right fun never => never tree made
    have gone : indexOf { s with nextId := s.nextId + 1, cells := s.cells ++ [.initial] } id =
      .error (.stubNotFound id) := indexOf_unlisted unlisted
    refine ⟨.stubNotFound id, ?_⟩
    rcases recording with rfl | rfl <;> simp [apply, enlist_ok made, gone]

variable {tree : PredicateTree} {answer : LiteralResponse}

theorem Sound.record_made (h : s.Sound) (listed : id ∈ s.ids)
    (made : PredicateTree.compile s.scripts d.predicates = .ok tree) :
    (s.apply (.record id d)).1 = .ok (.inserted (s.newStub d tree).id) ∧
      RecordedAt id answer (s.newStub d tree) .once s.stubs (s.apply (.record id d)).2.stubs
        (s.newStub d tree).id := by
  obtain ⟨earlier, p, later, split, rfl⟩ := split_of_listed listed
  rw [h.apply_record split made, split]
  exact ⟨rfl, .before rfl⟩

theorem Sound.append_made (h : s.Sound) (listed : id ∈ s.ids)
    (made : PredicateTree.compile s.scripts d.predicates = .ok tree)
    (single : d.responses = [.literal answer none]) :
    ∃ change recorded, (s.apply (.append id d)).1 = .ok change ∧ change.id? = some recorded ∧
      RecordedAt id answer (s.newStub d tree) .always s.stubs (s.apply (.append id d)).2.stubs
        recorded := by
  obtain ⟨earlier, p, later, split, rfl⟩ := split_of_listed listed
  rw [h.apply_append split made, split]
  cases found : later.find? (hasPredicates · d) with
  | some known =>
    obtain ⟨same, between, rest, rfl, passed⟩ := List.find?_eq_some_iff_append.mp found
    have others : ∀ other ∈ between, hasPredicates other d = false := by simpa using passed
    dsimp only
    rw [modify_first (extended · d.responses) others same, single]
    exact ⟨_, _, rfl, rfl, .extended rfl others same⟩
  | none =>
    have others : ∀ other ∈ later, hasPredicates other d = false := by
      simpa using List.find?_eq_none.mp found
    exact ⟨_, _, rfl, rfl, .behind rfl others⟩

end Store

/-! ### What an answer leaves behind -/

/-- The stub that would be recorded of an answer. -/
def Waiting.recorded (w : Waiting) (request : Request) (answer : LiteralResponse) : StubDefinition :=
  Recording.stub (Recording.predicates request w.target.generators) answer

namespace Imposter

variable {c : Capabilities} {i : Imposter} {request : Request} {w : Waiting}
  {answer : LiteralResponse}

theorem recordAnswer_command {command : StoreCommand}
    (given : recordingCommand request w answer = some command) :
    (i.recordAnswer request w answer).1 = recordedId (i.store.apply command).1 ∧
      (i.recordAnswer request w answer).2.1.store = (i.store.apply command).2 := by
  rw [recordAnswer, given]
  exact ⟨rfl, rfl⟩

theorem recordingCommand_cases {command : StoreCommand}
    (given : recordingCommand request w answer = some command) :
    w.target.mode = .once ∧ command = .record w.stub.id (w.recorded request answer) ∨
      w.target.mode = .always ∧ command = .append w.stub.id (w.recorded request answer) := by
  unfold recordingCommand at given
  cases mode : w.target.mode with
  | once =>
    simp only [mode] at given
    exact .inl ⟨rfl, (Option.some.inj given).symm⟩
  | always =>
    simp only [mode] at given
    exact .inr ⟨rfl, (Option.some.inj given).symm⟩
  | transparent => simp [mode] at given

theorem recordAnswer_made (sound : i.store.Sound) (answer : LiteralResponse)
    (records : w.target.mode ≠ .transparent) (listed : w.stub.id ∈ i.store.ids)
    {tree : PredicateTree}
    (made : PredicateTree.compile i.store.scripts
      (Recording.predicates request w.target.generators) = .ok tree) :
    ∃ id, (i.recordAnswer request w answer).1 = some id ∧
      RecordedAt w.stub.id answer (i.store.newStub (w.recorded request answer) tree) w.target.mode
        i.store.stubs (i.recordAnswer request w answer).2.1.store.stubs id := by
  cases given : recordingCommand request w answer with
  | none =>
    unfold recordingCommand at given
    cases mode : w.target.mode <;> simp [mode] at given records
  | some command =>
    obtain ⟨recorded, store⟩ := recordAnswer_command (i := i) given
    rw [recorded, store]
    rcases recordingCommand_cases given with ⟨mode, rfl⟩ | ⟨mode, rfl⟩
    · obtain ⟨result, stands⟩ := sound.record_made listed (d := w.recorded request answer) made
      rw [result, mode]
      exact ⟨_, rfl, stands⟩
    · obtain ⟨change, id, result, named, stands⟩ :=
        sound.append_made listed (d := w.recorded request answer) made (by rfl)
      rw [result, mode]
      exact ⟨id, named, stands⟩

theorem recordAnswer_fails (answer : LiteralResponse)
    (fails : w.target.mode = .transparent ∨ w.stub.id ∉ i.store.ids ∨
      ∀ tree, PredicateTree.compile i.store.scripts
        (Recording.predicates request w.target.generators) ≠ .ok tree) :
    (i.recordAnswer request w answer).1 = none ∧
      (i.recordAnswer request w answer).2.1.store.stubs = i.store.stubs := by
  cases given : recordingCommand request w answer with
  | none =>
    rw [recordAnswer, given]
    exact ⟨rfl, rfl⟩
  | some command =>
    have recording := recordingCommand_cases given
    have records : w.target.mode ≠ .transparent := by
      rcases recording with ⟨mode, -⟩ | ⟨mode, -⟩ <;> simp [mode]
    obtain ⟨e, failed, kept⟩ := Store.apply_record_fails
      (recording.imp And.right And.right) (fails.resolve_left records)
    obtain ⟨recorded, store⟩ := recordAnswer_command (i := i) given
    rw [recorded, store, failed, kept]
    exact ⟨rfl, rfl⟩

/-- An imposter that has been built, whatever has happened to it since, and however many requests
    wait. -/
def Occurs (c : Capabilities) (i : Imposter) : Prop :=
  ∃ d built events, build c d = .ok built ∧ i = ((Traffic.start built).run events).imposter

theorem Occurs.leads (h : Occurs c i) : (Store.empty c.scripts).Leads i.store := by
  obtain ⟨d, built, events, made, rfl⟩ := h
  exact Traffic.built_leads made events

/-- However an imposter has come about: a request is for a proxy, whose origin answers.  Whatever the
    edits in the meantime, the request comes to that answer, through that proxy.  Something is recorded
    if and only if the mode asks for it, the stub of the proxy is still listed when the answer comes,
    and what is generated of the request compiles; then the list that the edits have left changes by
    the recording alone, and otherwise it stays as it is. -/
theorem recording_in_flight (occurs : Occurs c i) (opened : i.closed = false)
    (brokered : i.capabilities.brokered = true) (now : Timestamp) {selected : Selection}
    (found : (i.store.resolve request).1 = some selected) {target : ProxyTarget}
    (proxy : selected.response = .proxy target) (ask : ProxyTarget → Exchange)
    (replied : (ask target).reply = .response answer) :
    let edited := ((i.asked now request).editAll (ask target).edits).store
    let last := (i.handle now request ask).2.1.store
    let predicates := Recording.predicates request target.generators
    ∃ recorded,
      (i.handle now request ask).1 =
        .ok ⟨answer, .proxied selected.stub.id target.mode recorded⟩ ∧
      (recorded.isSome ↔ target.mode ≠ .transparent ∧ selected.stub.id ∈ edited.ids ∧
        ∃ tree, PredicateTree.compile c.scripts predicates = .ok tree) ∧
      (∀ id, recorded = some id → ∃ tree, PredicateTree.compile c.scripts predicates = .ok tree ∧
        edited.nextId ∉ edited.ids ∧
        RecordedAt selected.stub.id answer
          ⟨edited.nextId, ⟨predicates, [.literal answer none], []⟩, tree, edited.cells.length⟩
          target.mode edited.stubs last.stubs id) ∧
      (recorded = none → last.stubs = edited.stubs) := by
  intro edited last predicates
  -- the edited list has a history too, so an identity still stands for one stub
  have leads : (Store.empty c.scripts).Leads edited :=
    occurs.leads.trans ((asked_leads i now request).trans (editAll_leads _ _))
  have sound : edited.Sound := leads.sound (Store.sound_empty c.scripts)
  have scripts : edited.scripts = c.scripts := leads.later.scripts
  obtain ⟨handled, final⟩ := handle_answered opened brokered now found proxy ask replied
  have stubs : last.stubs = (((i.asked now request).editAll (ask target).edits).recordAnswer request
      ⟨selected.stub, target⟩ answer).2.1.store.stubs := by
    change (i.handle now request ask).2.1.store.stubs = _
    rw [final, remember_stubs]
  refine ⟨_, handled, ?_⟩
  rw [stubs, ← scripts]
  by_cases can : target.mode ≠ .transparent ∧ selected.stub.id ∈ edited.ids ∧
    ∃ tree, PredicateTree.compile edited.scripts predicates = .ok tree
  · obtain ⟨records, listed, tree, made⟩ := can
    have unissued : edited.nextId ∉ edited.ids := by
      intro issued
      obtain ⟨stub, mem, named⟩ := Store.mem_ids.mp issued
      exact absurd (sound.issued stub mem) (by omega)
    obtain ⟨id, recorded, stands⟩ := recordAnswer_made (w := ⟨selected.stub, target⟩) sound answer
      records listed made
    rw [recorded]
    refine ⟨by simpa using ⟨records, listed, tree, made⟩, ?_, by simp⟩
    rintro _ ⟨⟩
    exact ⟨tree, made, unissued, stands⟩
  · have fails : target.mode = .transparent ∨ selected.stub.id ∉ edited.ids ∨
        ∀ tree, PredicateTree.compile edited.scripts predicates ≠ .ok tree := by
      rwa [not_and_or, not_and_or, not_ne_iff, not_exists] at can
    obtain ⟨nothing, kept⟩ := recordAnswer_fails (w := ⟨selected.stub, target⟩) answer fails
    rw [nothing, kept]
    exact ⟨by simpa using can, by simp, fun _ => rfl⟩

/-- While the origin is asked, another stub is put first, and the stub of the proxy is made one that
    no longer is a proxy. -/
def editedMeanwhile : ProxyTarget → Exchange := fun _ =>
  ⟨[.insert ⟨[], [.literal .plain none], []⟩ (some 0),
    .replace 0 ⟨[], [.literal .plain none], []⟩], .response .plain, ⟨0⟩⟩

theorem editedMeanwhile_recorded :
    let edited := ((proxying.asked ⟨0, 0⟩ withQuery).editAll
      (editedMeanwhile (.bare "http://origin" .once)).edits).store
    let last := (proxying.handle ⟨0, 0⟩ withQuery editedMeanwhile).2.1.store
    edited.ids = [1, 0] ∧ ∃ id new,
      (proxying.handle ⟨0, 0⟩ withQuery editedMeanwhile).1 =
        .ok ⟨.plain, .proxied 0 .once (some id)⟩ ∧
      RecordedAt 0 .plain new .once edited.stubs last.stubs id := by
  intro edited last
  have occurs : Occurs brokerOnly proxying :=
    ⟨⟨4545, "http", none, false, false, none, [proxyStub.definition], none, []⟩, proxying, [], rfl,
      rfl⟩
  have found : (proxying.store.resolve withQuery).1 =
      some ⟨proxyStub, 0, .proxy (.bare "http://origin" .once)⟩ := rfl
  have replied : (editedMeanwhile (.bare "http://origin" .once)).reply = .response .plain := rfl
  have ids : edited.ids = [1, 0] := rfl
  obtain ⟨recorded, handled, recordable, stands, -⟩ := recording_in_flight occurs rfl rfl ⟨0, 0⟩
    found rfl editedMeanwhile replied
  have made : recorded.isSome := recordable.mpr ⟨by decide, by rw [ids]; decide, _,
    Recording.compile_default brokerOnly.scripts withQuery⟩
  obtain ⟨id, rfl⟩ := Option.isSome_iff_exists.mp made
  obtain ⟨tree, -, -, at'⟩ := stands id rfl
  exact ⟨ids, id, _, handled, at'⟩

end Imposter

end VirtualService
