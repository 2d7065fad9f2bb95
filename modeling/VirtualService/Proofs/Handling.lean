/-
  VirtualService/Proofs/Handling.lean
  ===================================
  **What a request comes to.**

  Where nothing is edited while an origin is asked, handling a request is one of two
  things: a canned response is served, and the store has answered and remembers it
  (`Imposter.handle_literal`); or an origin has answered for a proxy, and the store
  has answered, recorded and remembers it (`Imposter.handle_proxy`).
-/
import VirtualService.Proofs.Reimport

namespace VirtualService

namespace Store

theorem resolve_first {s : Store} {request : Request} {selection : Selection}
    (h : (s.resolve request).1 = some selection) :
    firstMatch request s.stubs [] = some selection.stub := by
  unfold resolve at h
  split at h
  · cases h
  · next stub first => rw [first, (answerFrom_selection h).1]

theorem Sound.indexOf_split {s : Store} (h : s.Sound) {before after : List Stub} {stub : Stub}
    (split : s.stubs = before ++ stub :: after) : s.indexOf stub.id = .ok before.length := by
  have distinct := h.distinct
  rw [ids, split, List.map_append, List.map_cons] at distinct
  have earlier : ∀ other ∈ before, other.id ≠ stub.id := by
    intro other mem same
    have disjoint := (List.nodup_append.mp distinct).2.2
    exact disjoint other.id (List.mem_map_of_mem mem) stub.id List.mem_cons_self same
  have place : s.stubs.findIdx? (fun other => other.id = stub.id) = some before.length := by
    rw [split, List.findIdx?_append, List.findIdx?_eq_none_iff.mpr (by simpa using earlier)]
    simp [List.findIdx?_cons]
  rw [indexOf, place]

theorem insertIdx_split (before after : List Stub) (new : Stub) :
    (before ++ after).insertIdx before.length new = before ++ new :: after := by
  induction before with
  | nil => rfl
  | cons head before ih => rw [List.cons_append, List.length_cons, List.insertIdx_succ_cons, ih,
      List.cons_append]

theorem modify_split (before after : List Stub) (index : Nat) (f : Stub → Stub) :
    (before ++ after).modify (before.length + index) f = before ++ after.modify index f := by
  induction before with
  | nil => rw [List.length_nil, Nat.zero_add, List.nil_append, List.nil_append]
  | cons head before ih => rw [List.cons_append, List.length_cons, Nat.add_right_comm,
      List.modify_succ_cons, ih, List.cons_append]

end Store

namespace Imposter

variable {i : Imposter} {now : Timestamp} {request : Request} {selected : Selection}

/-- A request that waits does so for the proxy that the store has selected. -/
theorem begin_waiting_selected {w : Waiting} (h : (i.begin now request).1 = .waiting w) :
    i.closed = false ∧ i.capabilities.brokered = true ∧
      ∃ selected, (i.store.resolve request).1 = some selected ∧ selected.stub = w.stub ∧
        selected.response = .proxy w.target := by
  cases closed : i.closed with
  | true =>
    rw [begin_closed closed] at h
    cases h
  | false =>
    rw [begin_opened closed] at h
    split at h
    · cases h
    · next selected found =>
      split at h
      · cases h
      · next target proxy =>
        split at h
        · next brokered =>
          cases h
          exact ⟨rfl, brokered, selected, found, rfl, proxy⟩
        · cases h

/-- A request that no stub answers is given the default response. -/
theorem handle_missed (opened : i.closed = false) (now : Timestamp)
    (nothing : (i.store.resolve request).1 = none) (ask : ProxyTarget → Exchange) :
    (i.handle now request ask).1 = .ok ⟨i.defaultResponse, .default⟩ ∧
      (i.handle now request ask).2.1 = i.asked now request := by
  have begun := begin_opened opened now request
  rw [nothing] at begun
  have finished := congrArg Prod.fst begun
  rw [handle_finished finished, begun]
  exact ⟨rfl, rfl⟩

theorem handle_literal (opened : i.closed = false) (now : Timestamp)
    (found : (i.store.resolve request).1 = some selected) {response : LiteralResponse}
    {repeats : Option UInt32} (canned : selected.response = .literal response repeats)
    (ask : ProxyTarget → Exchange) :
    (i.begin now request).1 =
        .finished (.ok ⟨response, .matched selected.stub.id selected.place⟩) ∧
      (i.handle now request ask).1 = .ok ⟨response, .matched selected.stub.id selected.place⟩ ∧
      (i.handle now request ask).2.1 =
        (i.asked now request).remember selected.stub now request response := by
  have begun := begin_opened opened now request
  rw [found] at begun
  dsimp only at begun
  rw [canned] at begun
  have finished := congrArg Prod.fst begun
  rw [handle_finished finished, begun]
  exact ⟨rfl, rfl, rfl⟩

/-- A request that is for a proxy comes to the answer of the origin.  What is recorded goes by the
    imposter that the edits in the meantime have left. -/
theorem handle_answered (opened : i.closed = false) (brokered : i.capabilities.brokered = true)
    (now : Timestamp) (found : (i.store.resolve request).1 = some selected) {target : ProxyTarget}
    (proxy : selected.response = .proxy target) (ask : ProxyTarget → Exchange)
    {response : LiteralResponse} (replied : (ask target).reply = .response response) :
    let recording := ((i.asked now request).editAll (ask target).edits).recordAnswer request
      ⟨selected.stub, target⟩ response
    (i.handle now request ask).1 =
        .ok ⟨response, .proxied selected.stub.id target.mode recording.1⟩ ∧
      (i.handle now request ask).2.1 = recording.2.1.remember selected.stub now request response := by
  have begun := begin_opened opened now request
  rw [found] at begun
  dsimp only at begun
  rw [proxy] at begun
  dsimp only at begun
  rw [if_pos brokered] at begun
  rw [handle_waits (congrArg Prod.fst begun) ask, begun]
  dsimp only
  rw [replied]
  exact ⟨rfl, rfl⟩

theorem handle_proxy (opened : i.closed = false) (brokered : i.capabilities.brokered = true)
    (now : Timestamp) (found : (i.store.resolve request).1 = some selected) {target : ProxyTarget}
    (proxy : selected.response = .proxy target) (ask : ProxyTarget → Exchange)
    (still : (ask target).edits = []) {response : LiteralResponse}
    (replied : (ask target).reply = .response response) :
    let recording := (i.asked now request).recordAnswer request ⟨selected.stub, target⟩ response
    (i.handle now request ask).1 =
        .ok ⟨response, .proxied selected.stub.id target.mode recording.1⟩ ∧
      (i.handle now request ask).2.1 = recording.2.1.remember selected.stub now request response := by
  have answered := handle_answered opened brokered now found proxy ask replied
  rw [still] at answered
  exact answered

/-- An origin whose answer is handed on has answered. -/
theorem answer_of_handle_ok {w : Waiting} (h : (i.begin now request).1 = .waiting w)
    {ask : ProxyTarget → Exchange} (still : (ask w.target).edits = []) {resolution : Resolution}
    (handled : (i.handle now request ask).1 = .ok resolution) :
    (ask w.target).reply = .response resolution.response := by
  rw [(handle_waiting h ask still).1] at handled
  unfold complete at handled
  cases reply : (ask w.target).reply with
  | response r =>
    rw [reply] at handled
    cases handled
    rfl
  | unreachable address reason =>
    simp [reply, ProxyReply.answer, ProxyReply.result, Except.mapError] at handled
  | invalid reason =>
    simp [reply, ProxyReply.answer, ProxyReply.result, Except.mapError] at handled
  | silent =>
    simp [reply, ProxyReply.answer, ProxyReply.result, Except.mapError] at handled

/-! ### What is left as it is -/

@[simp] theorem asked_stubs (i : Imposter) (now : Timestamp) (request : Request) :
    (i.asked now request).store.stubs = i.store.stubs := by
  obtain ⟨cells, -, equal⟩ := (asked_same i now request).2
  rw [equal]

section Remember

variable (i : Imposter) (stub : Stub) (now : Timestamp) (request : Request)
  (response : LiteralResponse)

@[simp] theorem remember_closed : (i.remember stub now request response).closed = i.closed := by
  unfold remember
  split <;> rfl

@[simp] theorem remember_stubs :
    (i.remember stub now request response).store.stubs = i.store.stubs := by
  unfold remember
  split <;> rfl

theorem cursor_remember (cell : Nat) :
    ((i.remember stub now request response).store.stateAt cell).cursor =
      (i.store.stateAt cell).cursor := by
  unfold remember
  split
  · exact Store.cursor_modifyState i.store cell stub.cell fun _ => rfl
  · rfl

end Remember

end Imposter

end VirtualService
