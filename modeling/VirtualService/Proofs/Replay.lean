/-
  VirtualService/Proofs/Replay.lean
  =================================
  **What a proxy has recorded once is replayed.**

  A stub that is recorded stands directly before its proxy.  The stubs before it
  recognised nothing when the proxy was selected, so when the same request comes
  again it is the recorded stub that has to recognise it (`Store.firstMatch_split`).
  It does if the request can be told apart by what is compared of it
  (`proxyOnce_replays`); a request in which two keys differ in case alone is not
  recognised again, and its origin is asked each time (`same_request_asks_twice`).
-/
import VirtualService.Proofs.Handling
import VirtualService.Proofs.History
import VirtualService.Proofs.Recognition

namespace VirtualService

/-! ### The place of a recording -/

namespace Store

/-- What stands before the stub that recognises a request first has no say in what comes in its
    place. -/
theorem firstMatch_split {request : Request} {stubs : List Stub} {kept : Readings} {stub : Stub}
    (first : firstMatch request stubs kept = some stub) :
    ∃ before after seen, stubs = before ++ stub :: after ∧
      ∀ (other : Stub) (rest : List Stub), (other.tree.evaluate request seen).1 = true →
        firstMatch request (before ++ other :: rest) kept = some other := by
  induction stubs generalizing kept with
  | nil => cases first
  | cons head stubs ih =>
    rw [firstMatch] at first
    dsimp only at first
    split at first
    · cases first
      refine ⟨[], stubs, kept, rfl, ?_⟩
      intro other rest holds
      rw [List.nil_append, firstMatch]
      dsimp only
      rw [if_pos holds]
    · next fails =>
      obtain ⟨before, after, seen, split, replaced⟩ := ih first
      refine ⟨head :: before, after, seen, by rw [split, List.cons_append], ?_⟩
      intro other rest holds
      rw [List.cons_append, firstMatch]
      dsimp only
      rw [if_neg fails]
      exact replaced other rest holds

variable {s : Store} {before after : List Stub} {stub : Stub}

/-- A recording stands directly before its proxy. -/
theorem Sound.apply_record (h : s.Sound) (split : s.stubs = before ++ stub :: after)
    {d : StubDefinition} {tree : PredicateTree}
    (made : PredicateTree.compile s.scripts d.predicates = .ok tree) :
    s.apply (.record stub.id d) = (.ok (.inserted s.nextId),
      ⟨before ++ s.newStub d tree :: stub :: after, s.nextId + 1, s.cells ++ [.initial],
        s.scripts⟩) := by
  have place : indexOf { s with nextId := s.nextId + 1, cells := s.cells ++ [.initial] } stub.id =
      .ok before.length := h.indexOf_split split
  have inserted : s.stubs.insertIdx before.length (s.newStub d tree) =
      before ++ s.newStub d tree :: stub :: after := by
    rw [split, insertIdx_split]
  simp only [apply, enlist_ok made, place, inserted]
  rfl

/-- A stub with one canned response, whose cursor has not moved, serves it. -/
theorem answerFrom_single (stub : Stub) {response : LiteralResponse}
    (single : stub.definition.responses = [.literal response none])
    (unmoved : (s.stateAt stub.cell).cursor = .initial) :
    (s.answerFrom stub).1 = some ⟨stub, 0, .literal response none⟩ := by
  have one : stub.responseCount = 1 := by rw [Stub.responseCount, single]; rfl
  have first : (Cursor.initial.select 1 stub.repeatsAt).1 = 0 := rfl
  rw [answerFrom_eq, single, unmoved, one, first]
  rfl

end Store

/-! ### The same request again -/

namespace Imposter

variable {c : Capabilities} {i : Imposter} {request : Request} {w : Waiting}

/-- A proxy that records once has recorded, directly before its stub, one that serves the answer. -/
theorem recordAnswer_once (sound : i.store.Sound) {before after : List Stub}
    (split : i.store.stubs = before ++ w.stub :: after) (once : w.target.mode = .once)
    (plain : w.target.generators = []) (request : Request) (answer : LiteralResponse) :
    let new := i.store.newStub (Recording.stub (Recording.defaultPredicates request) answer)
      (Recording.defaultTree request)
    (i.recordAnswer request w answer).1 = some i.store.nextId ∧
      (i.recordAnswer request w answer).2.1 = { i with store :=
        ⟨before ++ new :: w.stub :: after, i.store.nextId + 1, i.store.cells ++ [.initial],
          i.store.scripts⟩ } := by
  have applied := sound.apply_record split
    (d := Recording.stub (Recording.defaultPredicates request) answer)
    (Recording.compile_default i.store.scripts request)
  have command : recordingCommand request w answer =
      some (.record w.stub.id (Recording.stub (Recording.defaultPredicates request) answer)) := by
    simp only [recordingCommand, once, plain, Recording.predicates]
  unfold recordAnswer
  rw [command]
  dsimp only
  rw [edit, applied]
  exact ⟨rfl, rfl⟩

/-- A stub with one canned response whose turn it is serves what it recognises first. -/
theorem handle_single (new : Stub) (opened : i.closed = false)
    (first : Store.firstMatch request i.store.stubs [] = some new) {answer : LiteralResponse}
    (single : new.definition.responses = [.literal answer none])
    (unmoved : (i.store.stateAt new.cell).cursor = .initial) (now : Timestamp)
    (ask : ProxyTarget → Exchange) :
    (i.begin now request).1 = .finished (.ok ⟨answer, .matched new.id 0⟩) ∧
      (i.handle now request ask).1 = .ok ⟨answer, .matched new.id 0⟩ := by
  have found : (i.store.resolve request).1 = some ⟨new, 0, .literal answer none⟩ := by
    rw [Store.resolve, first]
    exact Store.answerFrom_single new single unmoved
  obtain ⟨begun, handled, -⟩ := handle_literal opened now found rfl ask
  exact ⟨begun, handled⟩

/-- However an imposter has come about: a request waits for a proxy that records once and has no
    generators, and nothing is edited while it waits.  If it is handled, what the origin has answered
    is recorded in a new stub.  If what is compared of the request can be told apart, the same request
    is then no longer forwarded: the new stub serves what the origin has answered. -/
theorem proxyOnce_replays (reachable : Reachable c i) {now : Timestamp}
    (begun : (i.begin now request).1 = .waiting w) (once : w.target.mode = .once)
    (plain : w.target.generators = []) (ask : ProxyTarget → Exchange)
    (still : (ask w.target).edits = []) {answer : LiteralResponse} {outcome : Outcome}
    (handled : (i.handle now request ask).1 = .ok ⟨answer, outcome⟩) :
    let j := (i.handle now request ask).2.1
    (ask w.target).reply = .response answer ∧
      ∃ new, outcome = .proxied w.stub.id .once (some new) ∧
        (Recording.Distinguishable request → ∀ (later : Timestamp) (ask' : ProxyTarget → Exchange),
          (j.begin later request).1 = .finished (.ok ⟨answer, .matched new 0⟩) ∧
            (j.handle later request ask').1 = .ok ⟨answer, .matched new 0⟩) := by
  obtain ⟨opened, brokered, selected, found, same, proxy⟩ := begin_waiting_selected begun
  have replied : (ask w.target).reply = .response answer := answer_of_handle_ok begun still handled
  obtain ⟨result, last⟩ := handle_proxy opened brokered now found proxy ask still replied
  obtain ⟨stub, target⟩ := w
  obtain rfl : selected.stub = stub := same
  -- the request has moved a cursor and nothing else, so the stubs before still recognise nothing
  obtain ⟨before, after, seen, split, replaced⟩ :=
    Store.firstMatch_split (Store.resolve_first found)
  have soundAsked := (asked_same i now request).2.sound reachable.sound
  have splitAsked := (asked_stubs i now request).trans split
  obtain ⟨id, recording⟩ := recordAnswer_once (w := ⟨selected.stub, target⟩) soundAsked splitAsked
    once plain request answer
  rw [result, id, once] at handled
  rw [recording] at last
  cases handled
  refine ⟨replied, _, rfl, ?_⟩
  intro distinguishable later ask'
  rw [last]
  refine handle_single ((i.asked now request).store.newStub
    (Recording.stub (Recording.defaultPredicates request) answer) (Recording.defaultTree request))
    ?_ ?_ rfl ?_ later ask'
  · rw [remember_closed]
    exact opened
  · rw [remember_stubs]
    refine replaced _ _ ?_
    exact congrArg Prod.fst (Recording.defaultTree_own distinguishable seen)
  · rw [cursor_remember, Store.stateAt, Store.newStub, List.getElem?_concat_length]
    rfl

/-- A request with a query. -/
def withQuery : Request :=
  [("method", .str "GET"), ("path", .str "/a"), ("query", .obj [("k", .str "1"), ("l", .str "2")])]

theorem proxying_reachable : Reachable brokerOnly proxying :=
  ⟨⟨4545, "http", none, false, false, none, [proxyStub.definition], none, []⟩, proxying, [], rfl, rfl⟩

theorem withQuery_replays :
    (proxying.begin ⟨0, 0⟩ withQuery).1 = .waiting ⟨proxyStub, .bare "http://origin" .once⟩ ∧
      Recording.Distinguishable withQuery ∧
      ∃ new, (proxying.handle ⟨0, 0⟩ withQuery allIsWell).1 =
          .ok ⟨.plain, .proxied 0 .once (some new)⟩ ∧
        ∀ later ask', ((proxying.handle ⟨0, 0⟩ withQuery allIsWell).2.1.handle later withQuery
          ask').1 = .ok ⟨.plain, .matched new 0⟩ := by
  have begun : (proxying.begin ⟨0, 0⟩ withQuery).1 =
      .waiting ⟨proxyStub, .bare "http://origin" .once⟩ := rfl
  have handled : (proxying.handle ⟨0, 0⟩ withQuery allIsWell).1 =
      .ok ⟨.plain, .proxied 0 .once (some 1)⟩ := rfl
  have distinguishable : Recording.Distinguishable withQuery := by
    refine Recording.Distinguishable.of_apart (by decide +kernel) ?_
    intro field mem
    rw [show Recording.compared withQuery = withQuery from by rfl, withQuery] at mem
    simp only [List.mem_cons, List.not_mem_nil, or_false] at mem
    rcases mem with rfl | rfl | rfl
    · trivial
    · trivial
    · exact ⟨by decide +kernel, trivial, trivial, trivial⟩
  obtain ⟨-, new, outcome, replays⟩ :=
    proxyOnce_replays proxying_reachable begun rfl rfl allIsWell rfl handled
  cases outcome
  refine ⟨begun, distinguishable, 1, handled, fun later ask' => ?_⟩
  exact (replays distinguishable later ask').2

/-- A request with two parameters whose names differ in case alone. -/
def keysInTwoCases : Request :=
  HttpParts.toRequest ⟨"GET", "/a", some "k=1&K=2", [], none, none⟩

/-- A request in which two keys differ in case alone is recorded, and yet forwarded again when it
    comes again. -/
theorem same_request_asks_twice :
    let first := proxying.handle ⟨0, 0⟩ keysInTwoCases allIsWell
    (first.1.toOption.map Resolution.outcome, first.2.1.asks ⟨⟨0, 0⟩, keysInTwoCases, ⟨0⟩⟩,
        (first.2.1.handle ⟨0, 0⟩ keysInTwoCases allIsWell).1.toOption.map Resolution.outcome) =
      (some (.proxied 0 .once (some 1)), true, some (.proxied 0 .once (some 2))) := by
  decide +kernel

end Imposter

end VirtualService
