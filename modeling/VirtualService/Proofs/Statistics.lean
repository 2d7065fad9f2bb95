/-
  VirtualService/Proofs/Statistics.lean
  =====================================
  **What the statistics of a stub stand for.**

  A stub counts how often it was the first to recognise a request, and may keep the
  requests that were answered for it.  Both belong to its state, which outlives edits
  of the stub and is shared by requests that still wait for the stub as it was when
  they came.  So the statistics of every listed stub are those that the journal tells
  (`Store.Accounts`), however requests, edits and replies of origins are interleaved.
-/
import Mathlib.Data.List.DropRight
import VirtualService.Proofs.Traffic

namespace VirtualService

/-! ### What a journal tells of a stub -/

namespace Happening

def recognises (id : Nat) : Happening → Bool
  | recognised other => other == id
  | ended _ _ _ | forgot _ => false

def forgets (id : Nat) : Happening → Bool
  | forgot other => other == id
  | recognised _ | ended _ _ _ => false

/-- The request and its response, if this is the end of a request that the stub has answered. -/
def record? (id : Nat) : Happening → Option MatchRecord
  | ended now request (.ok resolution) =>
      if resolution.outcome.stub? = some id then some ⟨now, request, resolution.response⟩ else none
  | ended _ _ (.error _) | recognised _ | forgot _ => none

/-- What has happened since the statistics of a stub were last forgotten. -/
def since (id : Nat) (journal : List Happening) : List Happening :=
  journal.rtakeWhile fun h => !h.forgets id

/-- How often a stub was the first to recognise a request, and what is kept of its answers. -/
def tally (keeps : Bool) (id : Nat) (journal : List Happening) : Nat × List MatchRecord :=
  ((since id journal).countP (recognises id),
    if keeps then (since id journal).filterMap (record? id) else [])

variable {keeps : Bool} {id : Nat} {journal : List Happening}

theorem since_append {more : List Happening} (kept : ∀ h ∈ more, h.forgets id = false) :
    since id (journal ++ more) = since id journal ++ more := by
  induction more generalizing journal with
  | nil => simp
  | cons h more ih =>
    have here : since id (journal ++ [h]) = since id journal ++ [h] :=
      List.rtakeWhile_concat_pos _ _ _ (by simp [kept h List.mem_cons_self])
    rw [List.append_cons, ih fun other mem => kept other (List.mem_cons_of_mem _ mem), here,
      List.append_assoc, List.singleton_append]

theorem tally_append {more : List Happening} (kept : ∀ h ∈ more, h.forgets id = false) :
    tally keeps id (journal ++ more) =
      ((tally keeps id journal).1 + more.countP (recognises id),
        (tally keeps id journal).2 ++ if keeps then more.filterMap (record? id) else []) := by
  unfold tally
  rw [since_append kept, List.countP_append, List.filterMap_append]
  cases keeps <;> simp

/-- What does not concern a stub leaves its tally alone. -/
theorem tally_quiet {more : List Happening} (others : ∀ h ∈ more, h.stub? ≠ some id) :
    tally keeps id (journal ++ more) = tally keeps id journal := by
  have quiet : ∀ h ∈ more, h.forgets id = false ∧ h.recognises id = false ∧ h.record? id = none := by
    intro h mem
    have other := others h mem
    cases h with
    | recognised _ => simpa [stub?, forgets, recognises, record?] using other
    | forgot _ => simpa [stub?, forgets, recognises, record?] using other
    | ended now request result =>
      cases result with
      | error e => simp [forgets, recognises, record?]
      | ok resolution => simpa [stub?, forgets, recognises, record?] using other
  have unrecognised : more.countP (recognises id) = 0 := by
    rw [List.countP_eq_zero]
    intro h mem
    simp [(quiet h mem).2.1]
  have unrecorded : more.filterMap (record? id) = [] := by
    rw [List.filterMap_eq_nil_iff]
    exact fun h mem => (quiet h mem).2.2
  rw [tally_append fun h mem => (quiet h mem).1, unrecognised, unrecorded]
  simp

theorem tally_recognised :
    tally keeps id (journal ++ [.recognised id]) =
      ((tally keeps id journal).1 + 1, (tally keeps id journal).2) := by
  rw [tally_append (by simp [forgets])]
  simp [recognises, record?]

theorem tally_ended {now : Timestamp} {request : Request} {resolution : Resolution}
    (answered : resolution.outcome.stub? = some id) :
    tally keeps id (journal ++ [.ended now request (.ok resolution)]) =
      ((tally keeps id journal).1, (tally keeps id journal).2 ++
        if keeps then [⟨now, request, resolution.response⟩] else []) := by
  rw [tally_append (by simp [forgets])]
  simp [recognises, record?, answered]

/-- Where nothing is kept the end of a request is not told. -/
theorem tally_ended_unkept {now : Timestamp} {request : Request}
    {result : Except HandleError Resolution} :
    tally false id (journal ++ [.ended now request result]) = tally false id journal := by
  rw [tally_append (by simp [forgets])]
  simp [recognises, tally]

theorem tally_forgot : tally keeps id (journal ++ [.forgot id]) = (0, []) := by
  have nothing : since id (journal ++ [.forgot id]) = [] :=
    List.rtakeWhile_concat_neg _ _ _ (by simp [forgets])
  unfold tally
  rw [nothing]
  simp

end Happening

/-- The statistics in the state of a stub. -/
def StubState.tally (s : StubState) : Nat × List MatchRecord := (s.matched, s.records)

/-! ### Stubs that were listed once -/

namespace Store

variable {s t : Store} {stub : Stub}

/-- The stub was listed at some time before, though it may be edited or taken out since. -/
def Knew (s : Store) (stub : Stub) : Prop :=
  ∃ earlier : Store, earlier.Sound ∧ stub ∈ earlier.stubs ∧ earlier.Later s

theorem Sound.knew (h : s.Sound) (mem : stub ∈ s.stubs) : s.Knew stub := ⟨s, h, mem, .refl s⟩

theorem Knew.later (h : s.Knew stub) (st : s.Later t) : t.Knew stub := by
  obtain ⟨earlier, sound, mem, before⟩ := h
  exact ⟨earlier, sound, mem, before.trans st⟩

theorem Knew.issued (h : s.Knew stub) : stub.id < s.nextId := by
  obtain ⟨earlier, sound, mem, before⟩ := h
  exact Nat.lt_of_lt_of_le (sound.issued stub mem) before.nextId

theorem Knew.held (h : s.Knew stub) : stub.cell < s.cells.length := by
  obtain ⟨earlier, sound, mem, before⟩ := h
  exact Nat.lt_of_lt_of_le (sound.held stub mem) before.cells

/-- A stub that is listed now has the cell of one that was listed before just if it is the same. -/
theorem Knew.cell_eq_iff (h : s.Knew stub) {listed : Stub} (mem : listed ∈ s.stubs) :
    stub.cell = listed.cell ↔ stub.id = listed.id := by
  obtain ⟨earlier, sound, memEarlier, before⟩ := h
  constructor
  · intro same
    rcases before.fate listed mem with ⟨old, memOld, id, cell⟩ | ⟨-, new⟩
    · rw [sound.eq_of_cell memEarlier memOld (same.trans cell.symm), id]
    · -- a new cell lies behind all that were held before
      have := sound.held stub memEarlier
      omega
  · exact before.cell_eq sound memEarlier mem

/-! ### Accounts -/

/-- The statistics of every listed stub are those that a journal tells, and the journal tells of no
    identity before it is given out. -/
structure Accounts (s : Store) (keeps : Bool) (journal : List Happening) : Prop where
  sound : s.Sound
  issued : ∀ h ∈ journal, ∀ id, h.stub? = some id → id < s.nextId
  agrees : ∀ stub ∈ s.stubs, (s.stateAt stub.cell).tally = Happening.tally keeps stub.id journal

variable {keeps : Bool} {journal : List Happening}

/-- Something happens that no statistics show. -/
theorem Accounts.extend (h : s.Accounts keeps journal) {more : List Happening}
    (issued : ∀ h ∈ more, ∀ id, h.stub? = some id → id < s.nextId)
    (untold : ∀ id, Happening.tally keeps id (journal ++ more) = Happening.tally keeps id journal) :
    s.Accounts keeps (journal ++ more) := by
  refine ⟨h.sound, ?_, ?_⟩
  · intro happening mem
    rcases List.mem_append.mp mem with old | new
    · exact h.issued happening old
    · exact issued happening new
  · intro stub mem
    rw [untold]
    exact h.agrees stub mem

theorem Accounts.quiet (h : s.Accounts keeps journal) {more : List Happening}
    (nobody : ∀ h ∈ more, h.stub? = none) : s.Accounts keeps (journal ++ more) := by
  apply h.extend
  · intro happening mem id about
    rw [nobody happening mem] at about
    cases about
  · intro id
    exact Happening.tally_quiet fun happening mem => by simp [nobody happening mem]

/-- An edit tells nothing: who is listed still has its state, and who is new has none. -/
theorem Accounts.edited (h : s.Accounts keeps journal) {command : StoreCommand}
    (e : s.Edited command t) : t.Accounts keeps journal := by
  refine ⟨e.sound h.sound, ?_, ?_⟩
  · intro happening mem id about
    exact Nat.lt_of_lt_of_le (h.issued happening mem id about) e.later.nextId
  · intro stub mem
    rcases e.later.fate stub mem with ⟨old, memOld, id, cell⟩ | ⟨newId, newCell⟩
    · rw [← id, ← cell, e.stateAt_eq (h.sound.held old memOld)]
      exact h.agrees old memOld
    · -- an identity that is new now cannot have been told of
      have untold : ∀ happening ∈ journal, happening.stub? ≠ some stub.id := by
        intro happening there about
        have := h.issued happening there stub.id about
        omega
      have nothing : Happening.tally keeps stub.id ([] ++ journal) =
          Happening.tally keeps stub.id [] := Happening.tally_quiet untold
      rw [List.nil_append] at nothing
      rw [e.stateAt_new newCell, nothing]
      simp [StubState.tally, StubState.initial, Happening.tally, Happening.since]

/-- One thing happens to one stub, whether or not it is still listed. -/
theorem Accounts.modify (h : s.Accounts keeps journal) (knew : s.Knew stub)
    {f : StubState → StubState} {happening : Happening} (about : happening.stub? = some stub.id)
    (told : ∀ state : StubState, state.tally = Happening.tally keeps stub.id journal →
      (f state).tally = Happening.tally keeps stub.id (journal ++ [happening])) :
    (s.modifyState stub.cell f).Accounts keeps (journal ++ [happening]) := by
  refine ⟨(modifyState_same s stub.cell f).sound h.sound, ?_, ?_⟩
  · intro other mem id aboutOther
    rcases List.mem_append.mp mem with old | new
    · exact h.issued other old id aboutOther
    · rw [List.mem_singleton.mp new, about] at aboutOther
      cases aboutOther
      exact knew.issued
  · intro listed mem
    by_cases same : stub.id = listed.id
    · rw [← (knew.cell_eq_iff mem).mpr same, stateAt_modifyState_self knew.held, ← same]
      apply told
      rw [(knew.cell_eq_iff mem).mpr same, same]
      exact h.agrees listed mem
    · have apart : stub.cell ≠ listed.cell := fun cells => same ((knew.cell_eq_iff mem).mp cells)
      rw [stateAt_modifyState_ne s apart, Happening.tally_quiet]
      · exact h.agrees listed mem
      · intro other new
        rw [List.mem_singleton.mp new, about]
        exact fun equal => same (Option.some.inj equal)

/-- What changes no statistics is not told. -/
theorem Accounts.states (h : s.Accounts keeps journal) (cell : Nat) {f : StubState → StubState}
    (kept : ∀ state, (f state).tally = state.tally) :
    (s.modifyState cell f).Accounts keeps journal := by
  refine ⟨(modifyState_same s cell f).sound h.sound, h.issued, ?_⟩
  intro listed mem
  have agrees := h.agrees listed mem
  by_cases same : cell = listed.cell
  · subst same
    rw [stateAt_modifyState_self (h.sound.held listed mem), kept]
    exact agrees
  · rw [stateAt_modifyState_ne s same]
    exact agrees

/-- The first stub to recognise a request counts it, even if it has no responses. -/
theorem Accounts.resolve (h : s.Accounts keeps journal) (request : Request) :
    (s.resolve request).2.Accounts keeps
      (journal ++ (s.recognised request).toList.map .recognised) := by
  unfold Store.resolve recognised
  cases first : firstMatch request s.stubs [] with
  | none => exact h.quiet (by simp)
  | some stub =>
    have counted : (s.modifyState stub.cell StubState.countMatch).Accounts keeps
        (journal ++ [.recognised stub.id]) := by
      apply h.modify (h.sound.knew (firstMatch_mem first)) rfl
      intro state agrees
      rw [Happening.tally_recognised, ← agrees]
      rfl
    dsimp only
    unfold answerFrom
    split
    · exact counted
    · exact counted.states stub.cell fun _ => rfl

theorem Accounts.forget (h : s.Accounts keeps journal) (id : Nat) :
    (s.clearStatistics id).2.Accounts keeps
      (journal ++ if (s.clearStatistics id).1 then [.forgot id] else []) := by
  unfold clearStatistics
  cases found : s.find? id with
  | none => simpa using h
  | some stub =>
    have same : stub.id = id := by simpa using List.find?_some found
    subst same
    apply h.modify (h.sound.knew (List.mem_of_find?_eq_some found)) rfl
    intro state _
    rw [Happening.tally_forgot]
    rfl

end Store

/-! ### Accounts of an imposter with traffic -/

namespace Imposter

variable {i : Imposter} {keeps : Bool} {journal : List Happening}

/-- A request that a stub has answered is kept by the stub, if requests are kept. -/
theorem remember_accounts (h : i.store.Accounts keeps journal) (setting : i.recordMatches = keeps)
    {stub : Stub} (knew : i.store.Knew stub) (now : Timestamp) (request : Request)
    (response : LiteralResponse) {outcome : Outcome} (answered : outcome.stub? = some stub.id) :
    (i.remember stub now request response).store.Accounts keeps
      (journal ++ [.ended now request (.ok ⟨response, outcome⟩)]) := by
  have about : (Happening.ended now request (.ok ⟨response, outcome⟩)).stub? = some stub.id :=
    answered
  unfold remember
  cases on : i.recordMatches with
  | true =>
    obtain rfl : true = keeps := on.symm.trans setting
    rw [if_pos rfl]
    apply h.modify knew about
    intro state agrees
    rw [Happening.tally_ended answered, ← agrees]
    rfl
  | false =>
    obtain rfl : false = keeps := on.symm.trans setting
    rw [if_neg (by simp)]
    apply h.extend
    · intro happening mem id same
      rw [List.mem_singleton.mp mem, about] at same
      cases same
      exact knew.issued
    · exact fun id => Happening.tally_ended_unkept

theorem recordAnswer_accounts (h : i.store.Accounts keeps journal) (request : Request) (w : Waiting)
    (response : LiteralResponse) :
    (i.recordAnswer request w response).2.1.store.Accounts keeps journal := by
  unfold recordAnswer
  split
  · exact h
  · next command _ => exact h.edited (Store.apply_edited i.store command)

/-- What the beginning of a request does to the stubs, and what it tells. -/
theorem Begins.accounts {now : Timestamp} {request : Request} {started : Begun} {j : Imposter}
    {measured : Metrics} (begins : i.Begins now request started j measured)
    (h : i.store.Accounts keeps journal) (setting : i.recordMatches = keeps) :
    j.store.Accounts keeps (journal ++ ((if i.closed then [] else i.finds request) ++
      match started with
      | .finished result => [.ended now request result]
      | .waiting _ => [])) := by
  have asked : (i.asked now request).store.Accounts keeps (journal ++ i.finds request) :=
    h.resolve request
  cases begins with
  | refused closed =>
    rw [if_pos closed]
    exact h.quiet (by simp [Happening.stub?])
  | missed opened _ =>
    rw [opened, ← List.append_assoc]
    exact asked.quiet (by simp [Happening.stub?, Outcome.stub?])
  | served opened selected response repeats found canned =>
    rw [opened, ← List.append_assoc]
    have listed := (Store.resolve_selection found).1
    have knew := (h.sound.knew listed).later (asked_leads i now request).later
    exact remember_accounts asked setting knew now request response rfl
  | unbrokered opened _ _ _ _ _ =>
    rw [opened, ← List.append_assoc]
    exact asked.quiet (by simp [Happening.stub?])
  | waits opened _ _ _ _ _ =>
    rw [opened, List.append_nil]
    exact asked

end Imposter

namespace Traffic

/-- The statistics of the imposter are accounted for, and the requests that wait do so for stubs that
    were listed when they came. -/
structure Accounts (t : Traffic) (keeps : Bool) : Prop where
  setting : t.imposter.recordMatches = keeps
  store : t.imposter.store.Accounts keeps t.journal
  knew : ∀ p ∈ t.pending, t.imposter.store.Knew p.waiting.stub

/-- A request that waits was there before the event, or the event has brought it, for a stub that was
    listed. -/
theorem mem_pendingAfter {t : Traffic} {event : TrafficEvent} {p : Pending}
    (mem : p ∈ t.pendingAfter event) :
    p ∈ t.pending ∨ p.waiting.stub ∈ t.imposter.store.stubs := by
  unfold pendingAfter at mem
  split at mem
  · split at mem
    · exact .inl mem
    · next w begun =>
      rcases List.mem_cons.mp mem with rfl | old
      · exact .inr (Imposter.begin_waiting begun).1
      · exact .inl old
  · exact .inl (List.mem_of_mem_eraseIdx mem)
  · exact .inl mem
  · exact .inl mem

theorem recordMatches_after (t : Traffic) {event : TrafficEvent} (part : event.Part) :
    (t.after event).imposter.recordMatches = t.imposter.recordMatches := by
  cases event with
  | whole event =>
    cases event with
    | handle now request ask => exact part.elim
    | _ => rfl
  | arrive now request =>
    obtain ⟨_, _, _, same⟩ := (Imposter.begin_same t.imposter now request).1
    have kept := congrArg Imposter.recordMatches same
    exact kept
  | reply index now reply latency =>
    unfold after imposterAfter
    dsimp only
    split
    · rfl
    · next p _ =>
      obtain ⟨_, same⟩ := Imposter.complete_restocked t.imposter now p.request p.waiting reply latency
      rw [same]
  | exported options => rfl

theorem Accounts.store_after {t : Traffic} {keeps : Bool} (h : t.Accounts keeps)
    (event : TrafficEvent) (part : event.Part) :
    (t.after event).imposter.store.Accounts keeps (t.after event).journal := by
  obtain ⟨setting, store, knew⟩ := h
  have still : t.imposter.store.Accounts keeps (t.journal ++ []) := store.quiet (by simp)
  cases event with
  | whole event =>
    cases event with
    | handle now request ask => exact part.elim
    | edit command => exact still.edited (Store.apply_edited t.imposter.store command)
    | answer request => exact store.resolve request
    | clearStatistics id => exact store.forget id
    | clearRequests => exact still
    | close => exact still
  | arrive now request =>
    apply after_arrive (P := fun t => t.imposter.store.Accounts keeps t.journal)
    · intro result i measured begins
      exact begins.accounts store setting
    · intro w i measured begins
      have arrived := begins.accounts store setting
      rwa [List.append_nil] at arrived
  | reply index now reply latency =>
    apply after_reply (P := fun t => t.imposter.store.Accounts keeps t.journal)
    · exact store
    · intro p mem _ result i measured completes
      cases completes with
      | failed target reason failure => exact store.quiet (by simp [Happening.stub?])
      | answered response replied =>
        have recorded := Imposter.recordAnswer_accounts store p.request p.waiting response
        have knewThen := (knew p mem).later
          (Imposter.recordAnswer_leads t.imposter p.request p.waiting response).later
        obtain ⟨_, same⟩ := Imposter.recordAnswer_restocked t.imposter p.request p.waiting response
        have settingThen := (congrArg Imposter.recordMatches same).trans setting
        exact Imposter.remember_accounts recorded settingThen knewThen now p.request response rfl
  | exported options => exact still

theorem Accounts.after {t : Traffic} {keeps : Bool} (h : t.Accounts keeps) {event : TrafficEvent}
    (part : event.Part) : (t.after event).Accounts keeps := by
  have later := (after_leads t event).later
  refine ⟨(recordMatches_after t part).trans h.setting, h.store_after event part, ?_⟩
  intro p mem
  rcases mem_pendingAfter mem with old | listed
  · exact (h.knew p old).later later
  · exact (h.store.sound.knew listed).later later

theorem Accounts.run {t : Traffic} {keeps : Bool} (h : t.Accounts keeps)
    (events : List TrafficEvent) : (t.run events).Accounts keeps :=
  run_keeps (P := fun t => t.Accounts keeps) (fun _ _ part h => h.after part) h events

end Traffic

end VirtualService
