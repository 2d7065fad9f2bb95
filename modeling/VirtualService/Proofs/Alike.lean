/-
  VirtualService/Proofs/Alike.lean
  ================================
  **Stores and imposters that behave alike.**

  Two stores are alike under a renaming of identities if they list the same
  definitions in the same order, with cursors that agree, and give out new
  identities in step (`Store.Alike`).  Alike stores answer alike and stay alike, and
  so they do when the recordings of proxies are applied to both.  Imposters are
  alike if their stores are and what stands beside the stores is the same.
-/
import Mathlib.Data.List.Forall2
import VirtualService.Proofs.Imposter

namespace VirtualService

/-! ### Lists of twins -/

section Twins

variable {α β : Type} {R : α → β → Prop} {as : List α} {bs : List β}

theorem forall₂_findIdx?_eq (h : List.Forall₂ R as bs) {p : α → Bool} {q : β → Bool}
    (agree : ∀ a b, R a b → p a = q b) : as.findIdx? p = bs.findIdx? q := by
  induction h with
  | nil => rfl
  | cons twin rest ih => simp only [List.findIdx?_cons, agree _ _ twin, ih]

theorem forall₂_findIdx_eq (h : List.Forall₂ R as bs) {p : α → Bool} {q : β → Bool}
    (agree : ∀ a b, R a b → p a = q b) : as.findIdx p = bs.findIdx q := by
  induction h with
  | nil => rfl
  | cons twin rest ih => simp only [List.findIdx_cons, agree _ _ twin, ih]

/-- The first items found are twins, or nothing is found on either side. -/
theorem forall₂_find? (h : List.Forall₂ R as bs) {p : α → Bool} {q : β → Bool}
    (agree : ∀ a b, R a b → p a = q b) : Option.Rel R (as.find? p) (bs.find? q) := by
  induction h with
  | nil => exact .none
  | cons twin rest ih =>
    simp only [List.find?_cons, agree _ _ twin]
    split
    · exact .some twin
    · exact ih

theorem forall₂_insertIdx (h : List.Forall₂ R as bs) {a : α} {b : β} (twin : R a b) (index : Nat) :
    List.Forall₂ R (as.insertIdx index a) (bs.insertIdx index b) := by
  induction h generalizing index with
  | nil =>
    cases index with
    | zero => exact .cons twin .nil
    | succ index => exact .nil
  | cons first rest ih =>
    cases index with
    | zero => exact .cons twin (.cons first rest)
    | succ index => exact .cons first (ih index)

theorem forall₂_modify (h : List.Forall₂ R as bs) {f : α → α} {g : β → β}
    (twins : ∀ a b, R a b → R (f a) (g b)) (index : Nat) :
    List.Forall₂ R (as.modify index f) (bs.modify index g) := by
  induction h generalizing index with
  | nil => simp
  | cons first rest ih =>
    cases index with
    | zero =>
      rw [List.modify_zero_cons, List.modify_zero_cons]
      exact .cons (twins _ _ first) rest
    | succ index =>
      rw [List.modify_succ_cons, List.modify_succ_cons]
      exact .cons first (ih index)

end Twins

/-! ### Alike stores -/

/-- One stub is another with its identity renamed; their cells are their own. -/
structure Stub.Twin (rename : Nat → Nat) (a b : Stub) : Prop where
  id : a.id = rename b.id
  definition : a.definition = b.definition
  tree : a.tree = b.tree

/-- One selection is another of a twin: the same place and the same response. -/
structure Selection.Twin (rename : Nat → Nat) (x y : Selection) : Prop where
  stub : x.stub.Twin rename y.stub
  place : x.place = y.place
  response : x.response = y.response

namespace Store

/-- One store behaves like another with its identities renamed. -/
structure Alike (rename : Nat → Nat) (s t : Store) : Prop where
  left : s.Sound
  right : t.Sound
  scripts : s.scripts = t.scripts
  nextId : ∀ n, s.nextId + n = rename (t.nextId + n)
  twins : List.Forall₂ (Stub.Twin rename) s.stubs t.stubs
  cursors : ∀ a ∈ s.stubs, ∀ b ∈ t.stubs, a.id = rename b.id →
    (s.stateAt a.cell).cursor = (t.stateAt b.cell).cursor

variable {rename : Nat → Nat} {s t : Store}

/-! ### Answers -/

theorem firstMatch_twins (request : Request) {as bs : List Stub}
    (h : List.Forall₂ (Stub.Twin rename) as bs) (kept : Readings) :
    Option.Rel (Stub.Twin rename) (firstMatch request as kept) (firstMatch request bs kept) := by
  induction h generalizing kept with
  | nil => exact .none
  | cons twin rest ih =>
    simp only [firstMatch, twin.tree]
    split
    · exact .some twin
    · exact ih _

/-- Changes of states that agree on the cursors of a pair of twins keep stores alike. -/
theorem Alike.states (h : s.Alike rename t) {s' t' : Store} (hs : s.SameButStates s')
    (ht : t.SameButStates t')
    (cursors : ∀ a ∈ s.stubs, ∀ b ∈ t.stubs, a.id = rename b.id →
      (s'.stateAt a.cell).cursor = (t'.stateAt b.cell).cursor) : s'.Alike rename t' := by
  have left := hs.sound h.left
  have right := ht.sound h.right
  obtain ⟨cells, -, rfl⟩ := hs
  obtain ⟨cells', -, rfl⟩ := ht
  exact ⟨left, right, h.scripts, h.nextId, h.twins, cursors⟩

theorem stub_of_twin {a b : Stub} (twin : a.Twin rename b) :
    a.responseCount = b.responseCount ∧ a.repeatsAt = b.repeatsAt := by
  constructor
  · rw [Stub.responseCount, Stub.responseCount, twin.definition]
  · funext place
    rw [Stub.repeatsAt, Stub.repeatsAt, twin.definition]

theorem Alike.answerFrom (h : s.Alike rename t) (injective : Function.Injective rename) {a b : Stub}
    (ha : a ∈ s.stubs) (hb : b ∈ t.stubs) (twin : a.Twin rename b) :
    Option.Rel (Selection.Twin rename) (s.answerFrom a).1 (t.answerFrom b).1 ∧
      (s.answerFrom a).2.Alike rename (t.answerFrom b).2 := by
  have cursor := h.cursors a ha b hb twin.id
  obtain ⟨count, repeats⟩ := stub_of_twin twin
  constructor
  · rw [answerFrom_eq, answerFrom_eq, twin.definition, cursor, count, repeats]
    cases b.definition.responses.head? with
    | none => exact .none
    | some first => exact .some ⟨twin, rfl, rfl⟩
  · refine h.states (answerFrom_same s a) (answerFrom_same t b) fun a' ha' b' hb' same => ?_
    -- the cursor of the stub that answers moves on both sides, and no other does
    by_cases own : a' = a
    · subst own
      obtain rfl : b' = b := h.right.eq_of_id hb' hb (injective (same.symm.trans twin.id))
      rw [cursor_answerFrom (h.left.held _ ha), cursor_answerFrom (h.right.held _ hb), cursor, count,
        repeats]
    · have others : b' ≠ b := by
        rintro rfl
        exact own (h.left.eq_of_id ha' ha (same.trans twin.id.symm))
      rw [stateAt_answerFrom_ne s fun cell => own (h.left.eq_of_cell ha' ha cell.symm),
        stateAt_answerFrom_ne t fun cell => others (h.right.eq_of_cell hb' hb cell.symm)]
      exact h.cursors a' ha' b' hb' same

theorem Alike.resolve (h : s.Alike rename t) (injective : Function.Injective rename)
    (request : Request) :
    Option.Rel (Selection.Twin rename) (s.resolve request).1 (t.resolve request).1 ∧
      (s.resolve request).2.Alike rename (t.resolve request).2 := by
  have first := firstMatch_twins request h.twins []
  unfold Store.resolve
  cases foundS : firstMatch request s.stubs [] with
  | none =>
    rw [foundS] at first
    cases foundT : firstMatch request t.stubs [] with
    | none => exact ⟨.none, h⟩
    | some b =>
      rw [foundT] at first
      cases first
  | some a =>
    rw [foundS] at first
    cases foundT : firstMatch request t.stubs [] with
    | none =>
      rw [foundT] at first
      cases first
    | some b =>
      rw [foundT] at first
      cases first with
      | some twin =>
        exact h.answerFrom injective (firstMatch_mem foundS) (firstMatch_mem foundT) twin

theorem Alike.record (h : s.Alike rename t) (a b : Stub) (x y : MatchRecord) :
    (s.modifyState a.cell fun state => state.record x).Alike rename
      (t.modifyState b.cell fun state => state.record y) := by
  refine h.states (modifyState_same _ _ _) (modifyState_same _ _ _) fun a' ha' b' hb' same => ?_
  rw [cursor_modifyState (f := fun state => state.record x) s a'.cell a.cell fun _ => rfl,
    cursor_modifyState (f := fun state => state.record y) t b'.cell b.cell fun _ => rfl]
  exact h.cursors a' ha' b' hb' same

/-! ### Recordings -/

/-- Identities that are used up on both sides, with or without cells. -/
theorem Alike.issue (h : s.Alike rename t) (cells : Nat) :
    Alike rename ⟨s.stubs, s.nextId + 1, s.cells ++ List.replicate cells .initial, s.scripts⟩
      ⟨t.stubs, t.nextId + 1, t.cells ++ List.replicate cells .initial, t.scripts⟩ where
  left := h.left.issue 1 cells
  right := h.right.issue 1 cells
  scripts := h.scripts
  nextId := fun n => by
    have step := h.nextId (1 + n)
    rwa [← Nat.add_assoc, ← Nat.add_assoc] at step
  twins := h.twins
  cursors := fun a ha b hb same => by
    have before := h.cursors a ha b hb same
    simpa [stateAt, List.getElem?_append_left (h.left.held a ha),
      List.getElem?_append_left (h.right.held b hb)] using before

theorem Alike.indexOf_eq (h : s.Alike rename t) (injective : Function.Injective rename) (id : Nat) :
    s.stubs.findIdx? (fun stub => stub.id = rename id) = t.stubs.findIdx? fun stub => stub.id = id :=
  forall₂_findIdx?_eq h.twins fun a b twin => by
    rw [twin.id]
    simp [injective.eq_iff]

/-- New stubs of one definition at one place on both sides. -/
theorem Alike.insertNew (h : s.Alike rename t) (injective : Function.Injective rename)
    {d : StubDefinition} {tree : PredicateTree}
    (made : PredicateTree.compile t.scripts d.predicates = .ok tree) {index : Nat}
    (inside : index ≤ t.stubs.length) :
    Alike rename
      ⟨s.stubs.insertIdx index (s.newStub d tree), s.nextId + 1, s.cells ++ [.initial], s.scripts⟩
      ⟨t.stubs.insertIdx index (t.newStub d tree), t.nextId + 1, t.cells ++ [.initial],
        t.scripts⟩ := by
  have insideLeft : index ≤ s.stubs.length := h.twins.length_eq ▸ inside
  have newId : s.nextId = rename t.nextId := h.nextId 0
  have issued := h.issue 1
  have madeLeft : PredicateTree.compile s.scripts d.predicates = .ok tree := h.scripts ▸ made
  have twin : (s.newStub d tree).Twin rename (t.newStub d tree) := ⟨newId, rfl, rfl⟩
  refine ⟨h.left.insertNew rfl rfl (newStub_compiled madeLeft) insideLeft,
    h.right.insertNew rfl rfl (newStub_compiled made) inside, h.scripts, issued.nextId,
    forall₂_insertIdx h.twins twin index, fun a ha b hb same => ?_⟩
  -- a new stub is the twin of the new one alone, since old identities are below the next
  have stubA := List.mem_cons.mp ((List.perm_insertIdx _ s.stubs insideLeft).subset ha)
  have stubB := List.mem_cons.mp ((List.perm_insertIdx _ t.stubs inside).subset hb)
  rcases stubA with rfl | oldA
  · rcases stubB with rfl | oldB
    · simp [stateAt, newStub]
    · have equal : t.nextId = b.id := injective (newId.symm.trans same)
      exact absurd (h.right.issued b oldB) (by omega)
  · rcases stubB with rfl | oldB
    · have equal : a.id = s.nextId := same.trans newId.symm
      exact absurd (h.left.issued a oldA) (by omega)
    · exact issued.cursors a oldA b oldB same

theorem Alike.extended (h : s.Alike rename t) (responses : List ResponseDefinition) (place : Nat) :
    Alike rename { s with stubs := s.stubs.modify place fun stub => extended stub responses }
      { t with stubs := t.stubs.modify place fun stub => extended stub responses } where
  left := h.left.modify place (fun _ => rfl) (fun _ => rfl) fun _ compiled =>
    ⟨compiled.tree, compiled.bare⟩
  right := h.right.modify place (fun _ => rfl) (fun _ => rfl) fun _ compiled =>
    ⟨compiled.tree, compiled.bare⟩
  scripts := h.scripts
  nextId := h.nextId
  twins := by
    have kept (a b : Stub) (twin : a.Twin rename b) :
        (Store.extended a responses).Twin rename (Store.extended b responses) :=
      ⟨twin.id, by simp only [Store.extended, twin.definition], twin.tree⟩
    exact forall₂_modify h.twins kept place
  cursors := fun a ha b hb same => by
    have source {u : Store} {stub : Stub}
        (mem : stub ∈ u.stubs.modify place fun stub => Store.extended stub responses) :
        ∃ old ∈ u.stubs, old.id = stub.id ∧ old.cell = stub.cell := by
      rcases mem_of_mem_modify mem with there | ⟨old, there, rfl⟩
      · exact ⟨stub, there, rfl, rfl⟩
      · exact ⟨old, there, rfl, rfl⟩
    obtain ⟨oldA, memA, idA, cellA⟩ := source ha
    obtain ⟨oldB, memB, idB, cellB⟩ := source hb
    have before := h.cursors oldA memA oldB memB (by rw [idA, idB, same])
    rwa [cellA, cellB] at before

/-- The stub of a change that is no replacement of all, on both sides. -/
theorem Alike.record_apply (h : s.Alike rename t) (injective : Function.Injective rename)
    (before : Nat) (d : StubDefinition) :
    Imposter.recordedId (s.apply (.record (rename before) d)).1 =
        (Imposter.recordedId (t.apply (.record before d)).1).map rename ∧
      (s.apply (.record (rename before) d)).2.Alike rename (t.apply (.record before d)).2 := by
  have place := h.indexOf_eq injective before
  cases made : PredicateTree.compile t.scripts d.predicates with
  | error e =>
    have madeLeft : PredicateTree.compile s.scripts d.predicates = .error e := h.scripts ▸ made
    simp only [apply, enlist_error made, enlist_error madeLeft]
    exact ⟨rfl, by simpa using h.issue 0⟩
  | ok tree =>
    have madeLeft : PredicateTree.compile s.scripts d.predicates = .ok tree := h.scripts ▸ made
    simp only [apply, enlist_ok made, enlist_ok madeLeft, indexOf, place]
    cases found : t.stubs.findIdx? fun stub => stub.id = before with
    | none => exact ⟨rfl, h.issue 1⟩
    | some index =>
      have inside : index < t.stubs.length := (List.findIdx?_eq_some_iff_getElem.mp found).1
      exact ⟨congrArg some (h.nextId 0), h.insertNew injective made (Nat.le_of_lt inside)⟩

theorem Alike.append_apply (h : s.Alike rename t) (injective : Function.Injective rename)
    (after : Nat) (d : StubDefinition) :
    Imposter.recordedId (s.apply (.append (rename after) d)).1 =
        (Imposter.recordedId (t.apply (.append after d)).1).map rename ∧
      (s.apply (.append (rename after) d)).2.Alike rename (t.apply (.append after d)).2 := by
  have place := h.indexOf_eq injective after
  have agree (a b : Stub) (twin : a.Twin rename b) : hasPredicates a d = hasPredicates b d := by
    rw [hasPredicates, hasPredicates, twin.definition]
  cases made : PredicateTree.compile t.scripts d.predicates with
  | error e =>
    have madeLeft : PredicateTree.compile s.scripts d.predicates = .error e := h.scripts ▸ made
    simp only [apply, enlist_error made, enlist_error madeLeft]
    exact ⟨rfl, by simpa using h.issue 0⟩
  | ok tree =>
    have madeLeft : PredicateTree.compile s.scripts d.predicates = .ok tree := h.scripts ▸ made
    simp only [apply, enlist_ok made, enlist_ok madeLeft, indexOf, place]
    cases found : t.stubs.findIdx? fun stub => stub.id = after with
    | none => exact ⟨rfl, h.issue 1⟩
    | some index =>
      have inside : index < t.stubs.length := (List.findIdx?_eq_some_iff_getElem.mp found).1
      have rest := List.forall₂_drop (index + 1) h.twins
      have others := forall₂_find? rest agree
      have sameIndex := forall₂_findIdx_eq rest agree
      dsimp only
      rw [sameIndex]
      generalize (s.stubs.drop (index + 1)).find? (fun other => hasPredicates other d) = x at others
      generalize (t.stubs.drop (index + 1)).find? (fun other => hasPredicates other d) = y at others
      cases others with
      | none => exact ⟨congrArg some (h.nextId 0), h.insertNew injective made inside⟩
      | some twin => exact ⟨congrArg some twin.id, (h.issue 1).extended d.responses _⟩

end Store

/-! ### Renamed outcomes -/

/-- The outcome with the identities of stubs renamed. -/
def Outcome.rename (rename : Nat → Nat) : Outcome → Outcome
  | matched stub place => matched (rename stub) place
  | proxied stub mode recorded => proxied (rename stub) mode (recorded.map rename)
  | default => default

/-- The same response, with the identities of stubs in its outcome renamed. -/
def Resolution.rename (rename : Nat → Nat) (r : Resolution) : Resolution :=
  ⟨r.response, r.outcome.rename rename⟩

/-- What a request has led to on both sides: the same result or the same error, or a proxy of
    twins. -/
inductive Begun.Twin (rename : Nat → Nat) : Begun → Begun → Prop
  | finished (result : Except HandleError Resolution) :
      Twin rename (.finished (result.map (Resolution.rename rename))) (.finished result)
  | waiting {v w : Waiting} (stub : v.stub.Twin rename w.stub) (target : v.target = w.target) :
      Twin rename (.waiting v) (.waiting w)

/-! ### Alike imposters -/

namespace Imposter

/-- One imposter behaves like another with the identities of its stubs renamed.  What they have seen
    may differ. -/
structure Alike (rename : Nat → Nat) (i j : Imposter) : Prop where
  same : i.SameButStore j
  store : i.store.Alike rename j.store

variable {rename : Nat → Nat} {i j : Imposter}

theorem Alike.remember (h : i.Alike rename j) (a b : Stub) (now now' : Timestamp) (request : Request)
    (response : LiteralResponse) :
    (i.remember a now request response).Alike rename (j.remember b now' request response) := by
  have left := (remember_same i a now request response).1
  have right := (remember_same j b now' request response).1
  refine ⟨left.symm.trans (h.same.trans right), ?_⟩
  have flag : i.recordMatches = j.recordMatches := by
    obtain ⟨_, _, _, rfl⟩ := h.same
    rfl
  unfold Imposter.remember
  rw [flag]
  split
  · exact h.store.record a b _ _
  · exact h.store

theorem Alike.asked (h : i.Alike rename j) (injective : Function.Injective rename)
    (now now' : Timestamp) (request : Request) :
    (i.asked now request).Alike rename (j.asked now' request) :=
  ⟨(asked_same i now request).1.symm.trans (h.same.trans (asked_same j now' request).1),
    (h.store.resolve injective request).2⟩

theorem Alike.begin (h : i.Alike rename j) (injective : Function.Injective rename)
    (now now' : Timestamp) (request : Request) :
    Begun.Twin rename (i.begin now request).1 (j.begin now' request).1 ∧
      (i.begin now request).2.1.Alike rename (j.begin now' request).2.1 := by
  obtain ⟨port, defaultResponse, capabilities, closed⟩ : i.port = j.port ∧
      i.defaultResponse = j.defaultResponse ∧ i.capabilities = j.capabilities ∧
      i.closed = j.closed := by
    obtain ⟨_, _, _, rfl⟩ := h.same
    exact ⟨rfl, rfl, rfl, rfl⟩
  cases open' : j.closed with
  | true =>
    rw [begin_closed (closed.trans open'), begin_closed open', port]
    exact ⟨.finished (.error _), h⟩
  | false =>
    have asked := h.asked injective now now' request
    have chosen := (h.store.resolve injective request).1
    rw [begin_opened (closed.trans open'), begin_opened open']
    generalize (i.store.resolve request).1 = x at chosen
    generalize (j.store.resolve request).1 = y at chosen
    cases chosen with
    | none =>
      dsimp only
      rw [defaultResponse]
      exact ⟨.finished (.ok ⟨j.defaultResponse, .default⟩), asked⟩
    | @some x y twin =>
      dsimp only
      rw [twin.response, twin.stub.id, twin.place, capabilities]
      cases y.response with
      | literal response repeats =>
        exact ⟨.finished (.ok ⟨response, .matched y.stub.id y.place⟩), asked.remember _ _ _ _ _ _⟩
      | proxy target =>
        dsimp only
        split
        · exact ⟨.waiting twin.stub rfl, asked⟩
        · exact ⟨.finished (.error _), asked⟩

theorem Alike.edit (h : i.Alike rename j) {first second : StoreCommand}
    (alike : (i.store.apply first).2.Alike rename (j.store.apply second).2) :
    (i.edit first).2.Alike rename (j.edit second).2 := by
  obtain ⟨_, _, _, equal⟩ := h.same
  exact ⟨⟨(j.store.apply second).2, j.requests, j.count, by rw [equal]; rfl⟩, alike⟩

/-- What a proxy records on one side it records on the other. -/
theorem Alike.recordAnswer (h : i.Alike rename j) (injective : Function.Injective rename)
    (request : Request) {v w : Waiting} (id : v.stub.id = rename w.stub.id)
    (target : v.target = w.target) (response : LiteralResponse) :
    (i.recordAnswer request v response).1 = (j.recordAnswer request w response).1.map rename ∧
      (i.recordAnswer request v response).2.1.Alike rename
        (j.recordAnswer request w response).2.1 := by
  unfold Imposter.recordAnswer recordingCommand
  rw [target, id]
  cases w.target.mode with
  | once =>
    have recorded := h.store.record_apply injective w.stub.id
      (Recording.stub (Recording.predicates request w.target.generators) response)
    exact ⟨recorded.1, h.edit recorded.2⟩
  | always =>
    have recorded := h.store.append_apply injective w.stub.id
      (Recording.stub (Recording.predicates request w.target.generators) response)
    exact ⟨recorded.1, h.edit recorded.2⟩
  | transparent => exact ⟨rfl, h⟩

theorem Alike.complete (h : i.Alike rename j) (injective : Function.Injective rename)
    (now now' : Timestamp) (request : Request) {v w : Waiting} (id : v.stub.id = rename w.stub.id)
    (target : v.target = w.target) (reply : ProxyReply) (latency latency' : Double) :
    (i.complete now request v reply latency).1 =
        (j.complete now' request w reply latency').1.map (Resolution.rename rename) ∧
      (i.complete now request v reply latency).2.1.Alike rename
        (j.complete now' request w reply latency').2.1 := by
  have timeout : i.capabilities = j.capabilities := by
    obtain ⟨_, _, _, rfl⟩ := h.same
    rfl
  unfold Imposter.complete
  rw [target, timeout]
  cases reply.answer j.capabilities.timeoutMs w.target.origin with
  | error e => exact ⟨rfl, h⟩
  | ok response =>
    obtain ⟨recorded, alike⟩ := h.recordAnswer injective request id target response
    dsimp only
    rw [recorded, id]
    exact ⟨rfl, alike.remember _ _ _ _ _ _⟩

end Imposter

end VirtualService
