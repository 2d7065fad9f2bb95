/-
  VirtualService/Proofs/FullExport.lean
  =====================================
  **Exports that read back.**

  An export is made of live data: the definitions of the stubs as they are now, and
  what the imposter has seen.  All of it is well-formed if all that has come in was
  (`Traffic.WellFormed`), and this is kept by every part of the traffic.  So an export
  reads back as itself, with one exception.  A request that was seen is written beside
  its time, in one object; a field called `timestamp` takes the place of the time.
  Such a request is never read back (`ImposterDefinition.decode_untimed`), so an export
  reads back if and only if it shows none.
-/
import VirtualService.Proofs.Traffic

namespace VirtualService

/-! ### What stubs remember -/

namespace Store

/-- All records in the cells have a property. -/
def Remembers (s : Store) (P : MatchRecord → Prop) : Prop :=
  ∀ cell, ∀ r ∈ (s.stateAt cell).records, P r

variable {s : Store} {P : MatchRecord → Prop}

theorem Remembers.modify (h : s.Remembers P) {f : StubState → StubState}
    (keeps : ∀ state, (∀ r ∈ state.records, P r) → ∀ r ∈ (f state).records, P r) (cell : Nat) :
    (s.modifyState cell f).Remembers P := by
  intro other
  rcases stateAt_modifyState_cases s other cell f with same | changed
  · rw [same]
    exact h other
  · rw [changed]
    exact keeps _ (h other)

theorem Remembers.answerFrom (h : s.Remembers P) (stub : Stub) :
    (s.answerFrom stub).2.Remembers P := by
  have counted := h.modify (f := StubState.countMatch) (fun _ all => all) stub.cell
  unfold Store.answerFrom
  split
  · exact counted
  · dsimp only
    refine counted.modify ?_ stub.cell
    exact fun _ all => all

theorem Remembers.resolve (h : s.Remembers P) (request : Request) :
    (s.resolve request).2.Remembers P := by
  unfold Store.resolve
  split
  · exact h
  · exact h.answerFrom _

theorem Remembers.forget (h : s.Remembers P) (id : Nat) :
    (s.clearStatistics id).2.Remembers P := by
  unfold clearStatistics
  split
  · exact h.modify (fun _ _ => by simp [StubState.clearStatistics]) _
  · exact h

theorem Remembers.edited (h : s.Remembers P) {command : StoreCommand} {t : Store}
    (edited : s.Edited command t) : t.Remembers P := by
  intro cell
  by_cases held : cell < s.cells.length
  · rw [edited.stateAt_eq held]
    exact h cell
  · rw [edited.stateAt_new (Nat.not_lt.mp held)]
    simp [StubState.initial]

end Store

/-! ### Imposters all of whose data is well-formed -/

namespace Imposter

/-- All that an export of the imposter can show is well-formed. -/
structure WellFormed (i : Imposter) : Prop where
  defaultResponse : i.defaultResponse.WellFormed
  definitions : ∀ stub ∈ i.store.stubs, stub.definition.WellFormed
  records : i.store.Remembers MatchRecord.WellFormed
  requests : ∀ r ∈ i.requests, r.time.WellFormed ∧ (Json.obj r.request).WellFormed

variable {i : Imposter} {now : Timestamp} {request : Request}

theorem WellFormed.answered (h : i.WellFormed) (request : Request) :
    WellFormed { i with store := (i.store.resolve request).2 } := by
  obtain ⟨cells, -, same⟩ := Store.resolve_same i.store request
  refine ⟨h.defaultResponse, ?_, h.records.resolve request, h.requests⟩
  rw [same]
  exact h.definitions

theorem WellFormed.asked (h : i.WellFormed) (time : now.WellFormed)
    (wf : (Json.obj request).WellFormed) : (i.asked now request).WellFormed := by
  obtain ⟨defaultResponse, definitions, records, requests⟩ := h.answered request
  refine ⟨defaultResponse, definitions, records, ?_⟩
  intro r mem
  unfold Imposter.asked accept at mem
  dsimp only at mem
  split at mem
  · rcases List.mem_append.mp mem with old | new
    · exact requests r old
    · rw [List.mem_singleton.mp new]
      exact ⟨time, wf⟩
  · exact requests r mem

theorem WellFormed.remember (h : i.WellFormed) (stub : Stub) (time : now.WellFormed)
    (wf : (Json.obj request).WellFormed) {response : LiteralResponse}
    (answer : response.WellFormed) : (i.remember stub now request response).WellFormed := by
  unfold Imposter.remember
  split
  · refine ⟨h.defaultResponse, h.definitions, h.records.modify ?_ stub.cell, h.requests⟩
    intro state all r mem
    rcases List.mem_append.mp mem with old | new
    · exact all r old
    · rw [List.mem_singleton.mp new]
      exact ⟨time, wf, answer⟩
  · exact h

theorem WellFormed.edit (h : i.WellFormed) {command : StoreCommand}
    (carried : ∀ d ∈ command.definitions, d.WellFormed) : (i.edit command).2.WellFormed :=
  ⟨h.defaultResponse, edit_definitions h.definitions carried,
    h.records.edited (Store.apply_edited i.store command), h.requests⟩

theorem WellFormed.recordAnswer (h : i.WellFormed) (wf : (Json.obj request).WellFormed)
    {w : Waiting} (target : w.target.WellFormed) {response : LiteralResponse}
    (answer : response.WellFormed) : (i.recordAnswer request w response).2.1.WellFormed := by
  unfold Imposter.recordAnswer
  split
  · exact h
  · next command recording => exact h.edit (recordingCommand_wellFormed wf target answer recording)

/-- The response that is selected is well-formed. -/
theorem WellFormed.selected (h : i.WellFormed) {selected : Selection}
    (found : (i.store.resolve request).1 = some selected) : selected.response.WellFormed := by
  obtain ⟨listed, among⟩ := Store.resolve_selection found
  exact (h.definitions _ listed).responses _ among

theorem WellFormed.begins (h : i.WellFormed) (time : now.WellFormed)
    (wf : (Json.obj request).WellFormed) {started : Begun} {i' : Imposter} {measured : Metrics}
    (begins : i.Begins now request started i' measured) :
    i'.WellFormed ∧ ∀ w, started = .waiting w → w.target.WellFormed := by
  have asked := h.asked time wf
  cases begins with
  | refused closed => exact ⟨h, by simp⟩
  | missed _ _ => exact ⟨asked, by simp⟩
  | served _ selected response repeats found canned =>
    have answer := h.selected found
    rw [canned] at answer
    exact ⟨asked.remember _ time wf answer.1, by simp⟩
  | unbrokered _ _ _ _ _ _ => exact ⟨asked, by simp⟩
  | waits _ selected target found proxy _ =>
    have wanted := h.selected found
    rw [proxy] at wanted
    refine ⟨asked, ?_⟩
    rintro w ⟨⟩
    exact wanted

theorem WellFormed.completes (h : i.WellFormed) (time : now.WellFormed)
    (wf : (Json.obj request).WellFormed) {w : Waiting} (target : w.target.WellFormed)
    {reply : ProxyReply} (answer : ∀ response, reply = .response response → response.WellFormed)
    {latency : Double} {result : Except HandleError Resolution} {i' : Imposter}
    {measured : Metrics} (completes : i.Completes now request w reply latency result i' measured) :
    i'.WellFormed := by
  cases completes with
  | failed _ _ _ => exact h
  | answered response replied =>
    have answer := answer response replied
    exact (h.recordAnswer wf target answer).remember _ time wf answer

theorem build_wellFormed {c : Capabilities} {d : ImposterDefinition} (wf : d.WellFormed)
    (built : build c d = .ok i) : i.WellFormed := by
  have sound := build_sound wf built
  have edited := Store.apply_edited (Store.empty c.scripts) (.replaceAll d.stubs)
  have nothing : (Store.empty c.scripts).Remembers MatchRecord.WellFormed := by
    intro cell
    simp [Store.stateAt, Store.empty, StubState.initial]
  refine ⟨sound.defaultResponse, sound.definitions, ?_, ?_⟩
  · unfold build at built
    split at built
    · cases built
    · next made =>
      rw [made] at edited
      cases built
      exact nothing.edited edited
  · unfold build at built
    split at built
    · cases built
    · cases built
      simp

end Imposter

/-! ### Traffic in which all that comes in was read -/

/-- The clock shows an instant, requests are values, and the definitions in commands and the answers
    of origins were read. -/
def TrafficEvent.Authored : TrafficEvent → Prop
  | .whole (.handle now request ask) =>
      now.WellFormed ∧ (Json.obj request).WellFormed ∧ ∀ target, (ask target).Authored
  | .whole (.edit command) => ∀ d ∈ command.definitions, StubDefinition.decode.Reads d
  | .whole (.answer _) | .whole (.clearStatistics _) | .whole .clearRequests | .whole .close => True
  | .arrive now request => now.WellFormed ∧ (Json.obj request).WellFormed
  | .reply _ now answer _ =>
      now.WellFormed ∧
        ∀ response, answer = .response response → LiteralResponse.decode.Reads response
  | .exported _ => True

namespace Traffic

/-- The imposter is well-formed, and so are the requests that wait and the proxies they wait for. -/
structure WellFormed (t : Traffic) : Prop where
  imposter : t.imposter.WellFormed
  pending : ∀ p ∈ t.pending, (Json.obj p.request).WellFormed ∧ p.waiting.target.WellFormed

theorem parts_authored (i : Imposter) (now : Timestamp) (request : Request)
    (ask : ProxyTarget → Exchange)
    (authored : TrafficEvent.Authored (.whole (.handle now request ask))) :
    ∀ event ∈ parts i now request ask, event.Authored := by
  obtain ⟨time, wf, asks⟩ := authored
  unfold parts
  intro event mem
  rcases List.mem_cons.mp mem with rfl | mem
  · exact ⟨time, wf⟩
  · split at mem
    · cases mem
    · next w _ =>
      rcases List.mem_append.mp mem with edit | last
      · obtain ⟨command, there, rfl⟩ := List.mem_map.mp edit
        exact (asks w.target).edits command there
      · rw [List.mem_singleton.mp last]
        exact ⟨time, (asks w.target).reply⟩

theorem WellFormed.after {t : Traffic} (h : t.WellFormed) {event : TrafficEvent} (part : event.Part)
    (authored : event.Authored) : (t.after event).WellFormed := by
  cases event with
  | whole event =>
    refine ⟨?_, h.pending⟩
    cases event with
    | handle now request ask => exact part.elim
    | edit command =>
      exact h.imposter.edit fun d mem => StubDefinition.decode_yields.of_reads (authored d mem)
    | answer request => exact h.imposter.answered request
    | clearStatistics id =>
      obtain ⟨cells, -, same⟩ := Store.clearStatistics_same t.imposter.store id
      refine ⟨h.imposter.defaultResponse, ?_, h.imposter.records.forget id, h.imposter.requests⟩
      change ∀ stub ∈ (t.imposter.store.clearStatistics id).2.stubs, _
      rw [same]
      exact h.imposter.definitions
    | clearRequests =>
      exact ⟨h.imposter.defaultResponse, h.imposter.definitions, h.imposter.records, nofun⟩
    | close =>
      exact ⟨h.imposter.defaultResponse, h.imposter.definitions, h.imposter.records,
        h.imposter.requests⟩
  | arrive now request =>
    obtain ⟨time, wf⟩ := authored
    apply after_arrive
    · intro result i measured begins
      exact ⟨(h.imposter.begins time wf begins).1, h.pending⟩
    · intro w i measured begins
      obtain ⟨kept, target⟩ := h.imposter.begins time wf begins
      refine ⟨kept, fun p mem => ?_⟩
      rcases List.mem_cons.mp mem with rfl | mem
      · exact ⟨wf, target w rfl⟩
      · exact h.pending p mem
  | reply index now reply latency =>
    obtain ⟨time, answer⟩ := authored
    apply after_reply _ _ _ _ _ h
    intro p mem _ result i measured completes
    obtain ⟨wf, target⟩ := h.pending p mem
    refine ⟨h.imposter.completes time wf target ?_ completes, fun q there => ?_⟩
    · exact fun response replied => LiteralResponse.decode_yields.of_reads (answer response replied)
    · exact h.pending q (List.mem_of_mem_eraseIdx there)
  | exported options => exact ⟨h.imposter, h.pending⟩

theorem WellFormed.run {t : Traffic} (h : t.WellFormed) {events : List TrafficEvent}
    (authored : ∀ event ∈ events, event.Authored) : (t.run events).WellFormed :=
  run_keeps_where (P := WellFormed) (fun i now request ask => parts_authored i now request ask)
    (fun _ _ part authored h => h.after part authored) h authored

theorem start_wellFormed {c : Capabilities} {d : ImposterDefinition} {i : Imposter}
    (read : ImposterDefinition.decode.Reads d) (built : Imposter.build c d = .ok i) :
    (start i).WellFormed :=
  ⟨Imposter.build_wellFormed (ImposterDefinition.decode_yields.of_reads read) built, nofun⟩

end Traffic

/-! ### The export -/

namespace Imposter

variable {i : Imposter}

theorem WellFormed.exportStub (h : i.WellFormed) (o : ExportOptions) {stub : Stub}
    (mem : stub ∈ i.store.stubs) {d : StubDefinition} (made : i.exportStub o stub = some d) :
    d.WellFormed := by
  have wf := h.definitions stub mem
  simp only [Imposter.exportStub, Option.ite_none_left_eq_some, Option.some.injEq] at made
  obtain ⟨-, rfl⟩ := made
  refine ⟨wf.predicates, ?_, ?_⟩
  · intro r there
    dsimp only at there
    split at there
    · exact wf.responses r (List.mem_of_mem_filter there)
    · exact wf.responses r there
  · intro r there
    dsimp only at there
    split at there
    · exact wf.records r there
    · exact h.records stub.cell r there

/-- An export is well-formed if no request that it shows has a field in the place of the time. -/
theorem WellFormed.exported (h : i.WellFormed) (o : ExportOptions)
    (untimed : ∀ r ∈ (i.exported o).requests, Dict.find? r.request "timestamp" = none) :
    (i.exported o).WellFormed := by
  constructor
  · intro r mem
    unfold Imposter.exported at mem
    dsimp only at mem
    split at mem
    · cases mem
    · cases mem
      exact h.defaultResponse
  · intro d mem
    obtain ⟨stub, listed, made⟩ := List.mem_filterMap.mp mem
    exact h.exportStub o listed made
  · intro r mem
    have seen : r ∈ i.requests := by
      unfold Imposter.exported at mem
      dsimp only at mem
      split at mem
      · cases mem
      · exact mem
    obtain ⟨time, wf⟩ := h.requests r seen
    exact ⟨time, wf, untimed r mem⟩

end Imposter

/-! ### Requests with a field in the place of the time -/

theorem RecordedRequest.decode_untimed {j : Json} {r : RecordedRequest} (h : decode j = .ok r) :
    Dict.find? r.request "timestamp" = none := by
  unfold decode at h
  obtain ⟨members, -, h⟩ := Except.bind_eq_ok.mp h
  obtain ⟨time?, -, h⟩ := Except.bind_eq_ok.mp h
  obtain ⟨time, -, h⟩ := Except.bind_eq_ok.mp h
  cases h
  simp [Dict.find?_erase]

theorem Fields.readOr_cases {α : Type} {fields : Fields} {name : String} {decode : Decoder α}
    {otherwise a : α} (h : fields.readOr name decode otherwise = .ok a) :
    a = otherwise ∨ ∃ j, decode j = .ok a := by
  obtain ⟨o, read, rfl⟩ := Except.map_eq_ok.mp h
  cases o with
  | none => exact .inl rfl
  | some a =>
    rw [Fields.read] at read
    split at read
    · cases read
    · next j _ =>
      obtain ⟨b, decoded, same⟩ := Except.map_eq_ok.mp read
      cases same
      exact .inr ⟨j, decoded⟩

namespace ImposterDefinition

/-- No request that is read has a field in the place of the time, whatever it is read from. -/
theorem decode_untimed {j : Json} {d : ImposterDefinition} (h : decode j = .ok d) :
    ∀ r ∈ d.requests, Dict.find? r.request "timestamp" = none := by
  obtain ⟨fields, -, -, -, read⟩ := decode_fields h
  rcases Fields.readOr_cases read with nothing | ⟨listed, decoded⟩
  · rw [nothing]
    exact List.forall_mem_nil _
  · intro r mem
    cases listed with
    | arr items =>
      obtain ⟨item, -, one⟩ := mapM_eq_ok_mem decoded r mem
      exact RecordedRequest.decode_untimed one
    | _ => cases decoded

theorem sameRequests_mem {rs qs : List RecordedRequest} (h : sameRequests rs qs = true)
    {q : RecordedRequest} (mem : q ∈ qs) : ∃ r ∈ rs, r.same q = true := by
  induction rs generalizing qs with
  | nil =>
    cases qs with
    | nil => cases mem
    | cons q' qs => cases h
  | cons r rs ih =>
    cases qs with
    | nil => cases mem
    | cons q' qs =>
      rw [sameRequests, Bool.and_eq_true] at h
      rcases List.mem_cons.mp mem with rfl | mem
      · exact ⟨r, List.mem_cons_self, h.1⟩
      · obtain ⟨r', there, same⟩ := ih h.2 mem
        exact ⟨r', List.mem_cons_of_mem _ there, same⟩

end ImposterDefinition

/-- Equal objects have the same keys. -/
theorem Json.sameMembers_find?_eq_none {as bs : Dict Json} (h : Json.sameMembers as bs = true)
    {name : String} (absent : Dict.find? as name = none) : Dict.find? bs name = none := by
  induction as generalizing bs with
  | nil =>
    cases bs with
    | nil => rfl
    | cons b bs => cases h
  | cons a as ih =>
    cases bs with
    | nil => cases h
    | cons b bs =>
      obtain ⟨key, value⟩ := a
      obtain ⟨key', value'⟩ := b
      simp only [Json.sameMembers, Bool.and_eq_true, beq_iff_eq] at h
      obtain ⟨⟨rfl, -⟩, later⟩ := h
      rw [Dict.find?] at absent ⊢
      split at absent
      · cases absent
      · next other =>
        rw [if_neg other]
        exact ih later absent

/-- Where a request has a field in the place of the time, nothing equal is read back. -/
theorem ImposterDefinition.lost_of_timed {d : ImposterDefinition} {r : RecordedRequest}
    (mem : r ∈ d.requests) (timed : Dict.find? r.request "timestamp" ≠ none)
    {d' : ImposterDefinition} (decoded : decode d.encode = .ok d') : d'.same d = false := by
  rw [Bool.eq_false_iff]
  intro same
  simp only [ImposterDefinition.same, Bool.and_eq_true] at same
  obtain ⟨r', there, equal⟩ := sameRequests_mem same.2 mem
  simp only [RecordedRequest.same, Bool.and_eq_true] at equal
  exact timed (Json.sameMembers_find?_eq_none equal.2 (decode_untimed decoded r' there))

/-! ### Which exports read back -/

namespace Traffic

/-- Whatever has happened to an imposter that was read, where all that came in was read as well: an
    export of it, of any kind, reads back as itself if none of the requests it shows has a field
    called `timestamp`; if one has, what is read back, if anything is, is not equal to it. -/
theorem export_reads_back {c : Capabilities} {d : ImposterDefinition} {i : Imposter}
    (read : ImposterDefinition.decode.Reads d) (built : Imposter.build c d = .ok i)
    {events : List TrafficEvent} (authored : ∀ event ∈ events, event.Authored)
    (o : ExportOptions) :
    let e := ((start i).run events).imposter.exported o
    ((∀ r ∈ e.requests, Dict.find? r.request "timestamp" = none) →
        ImposterDefinition.decode e.encode = .ok e ∧ e.same e = true) ∧
      ((∃ r ∈ e.requests, Dict.find? r.request "timestamp" ≠ none) →
        ∀ e', ImposterDefinition.decode e.encode = .ok e' → e'.same e = false) := by
  intro e
  constructor
  · intro untimed
    have live := ((start_wellFormed read built).run authored).imposter
    have wf := live.exported o untimed
    exact ⟨ImposterDefinition.decode_encode wf, ImposterDefinition.same_self wf⟩
  · rintro ⟨r, mem, timed⟩ e' decoded
    exact ImposterDefinition.lost_of_timed mem timed decoded

/-- An imposter that keeps all it sees, with a stub for any request. -/
def keepsAll : ImposterDefinition where
  port := 4545
  protocol := "http"
  name := none
  recordRequests := true
  recordMatches := true
  defaultResponse := none
  stubs := [⟨[], [.literal .plain none], []⟩]
  requestCount := none
  requests := []

/-- The imposter once it is built. -/
def keeper : Imposter where
  port := 4545
  protocol := "http"
  name := none
  recordRequests := true
  recordMatches := true
  defaultResponse := .plain
  capabilities := ⟨false, false, 1000⟩
  store := ⟨[⟨0, ⟨[], [.literal .plain none], []⟩, [], 0⟩], 1, [.initial], false⟩
  requests := []
  count := 0
  closed := false

/-- It has received a request with one field. -/
def arrival (field : String) : TrafficEvent := .arrive ⟨0, 0⟩ [(field, .str "noon")]

/-- All that it shows then. -/
def shown (field : String) : ImposterDefinition :=
  ((start keeper).run [arrival field]).imposter.exported .full

theorem keepsAll_read : ImposterDefinition.decode.Reads keepsAll := by
  have stub : StubDefinition.WellFormed ⟨[], [.literal .plain none], []⟩ := by
    constructor <;> simp [ResponseDefinition.WellFormed, LiteralResponse.plain_wellFormed]
  have wf : keepsAll.WellFormed := by
    constructor
    · simp [keepsAll]
    · simpa [keepsAll] using stub
    · simp [keepsAll]
  refine ⟨keepsAll.encode, Json.wellFormed_ofList ?_, ImposterDefinition.decode_encode wf⟩
  simp [keepsAll, StubDefinition.encode, ResponseDefinition.encode, LiteralResponse.encode,
    LiteralResponse.plain, Json.ofPairs, Dict.ofList, Dict.insert, Json.WellFormed,
    Json.WellFormedItems, Json.WellFormedMembers, Dict.Sorted, Dict.Above, Json.nat,
    Number.WellFormed]

theorem arrival_authored (field : String) : (arrival field).Authored := by
  constructor
  · exact ⟨by decide +kernel, by decide +kernel, by decide⟩
  · simp [Json.WellFormed, Json.WellFormedMembers, Dict.Sorted, Dict.Above]

theorem shown_request_reads_back :
    (shown "request").requests.length = 1 ∧
      (shown "request").stubs.map (fun stub => stub.records.length) = [1] ∧
      ImposterDefinition.decode (shown "request").encode = .ok (shown "request") ∧
      (shown "request").same (shown "request") = true := by
  have authored : ∀ event ∈ [arrival "request"], event.Authored := by
    simpa using arrival_authored "request"
  have built : Imposter.build ⟨false, false, 1000⟩ keepsAll = .ok keeper := rfl
  exact ⟨rfl, rfl, (export_reads_back keepsAll_read built authored .full).1 (by decide +kernel)⟩

/-- A field called `timestamp` is read as the time. -/
theorem shown_timestamp_lost :
    ImposterDefinition.decode.Reads keepsAll ∧
      Imposter.build ⟨false, false, 1000⟩ keepsAll = .ok keeper ∧
      (arrival "timestamp").Authored ∧
      ¬ ∃ e, ImposterDefinition.decode (shown "timestamp").encode = .ok e ∧
        e.same (shown "timestamp") = true := by
  refine ⟨keepsAll_read, rfl, arrival_authored "timestamp", ?_⟩
  rintro ⟨e, decoded, same⟩
  have there : (⟨⟨0, 0⟩, [("timestamp", .str "noon")]⟩ : RecordedRequest) ∈
      (shown "timestamp").requests := List.mem_singleton.mpr rfl
  rw [ImposterDefinition.lost_of_timed there (by simp [Dict.find?]) decoded] at same
  cases same

end Traffic

end VirtualService
