/-
  VirtualService/Proofs/Reimport.lean
  ===================================
  **An export, built again, behaves like the original.**

  An imposter and what is built from its export are alike if no cursor of the
  original has moved: the stubs are counted from the start in the new one, and the
  renaming takes them back (`Store.restored`).  Alike imposters answer any requests
  alike, so the two cannot be told apart but by the identities of their stubs.
-/
import VirtualService.Proofs.Alike

namespace VirtualService

/-! ### Visits -/

/-- A request that comes at an instant; an origin, if one is asked, takes so long. -/
structure Visit where
  now : Timestamp
  request : Request
  latency : Double

namespace Imposter

/-- A request asks an origin. -/
def asks (i : Imposter) (v : Visit) : Bool :=
  match (i.begin v.now v.request).1 with
  | .finished _ => false
  | .waiting _ => true

/-- Handle a request where the origins reply by the number of the call, the request and the
    target. -/
def visit (replies : Nat → Request → ProxyTarget → ProxyReply) (i : Imposter) (calls : Nat)
    (v : Visit) : Except HandleError Resolution × Imposter × Nat :=
  let (result, i', _) := i.handle v.now v.request fun target =>
    ⟨[], replies calls v.request target, v.latency⟩
  (result, i', if i.asks v then calls + 1 else calls)

/-- Handle requests in turn. -/
def visits (replies : Nat → Request → ProxyTarget → ProxyReply) (i : Imposter) (calls : Nat) :
    List Visit → List (Except HandleError Resolution) × Imposter
  | [] => ([], i)
  | v :: vs =>
      let (result, i', calls') := i.visit replies calls v
      let (results, last) := i'.visits replies calls' vs
      (result :: results, last)

variable {rename : Nat → Nat} {i j : Imposter}

theorem handle_finished {now : Timestamp} {request : Request}
    {result : Except HandleError Resolution} (begun : (i.begin now request).1 = .finished result)
    (ask : ProxyTarget → Exchange) :
    i.handle now request ask = (result, (i.begin now request).2.1, (i.begin now request).2.2) := by
  unfold handle
  generalize i.begin now request = b at begun
  obtain ⟨started, i', measured⟩ := b
  dsimp only at begun
  subst begun
  rfl

/-- A request that has to wait is completed on what the edits have made of the imposter. -/
theorem handle_waits {now : Timestamp} {request : Request} {w : Waiting}
    (begun : (i.begin now request).1 = .waiting w) (ask : ProxyTarget → Exchange) :
    let done := ((i.begin now request).2.1.editAll (ask w.target).edits).complete now request w
      (ask w.target).reply (ask w.target).latency
    i.handle now request ask = (done.1, done.2.1, (i.begin now request).2.2 ++ done.2.2) := by
  unfold handle
  generalize i.begin now request = b at begun
  obtain ⟨started, i', measured⟩ := b
  dsimp only at begun
  subst begun
  rfl

theorem handle_waiting {now : Timestamp} {request : Request} {w : Waiting}
    (begun : (i.begin now request).1 = .waiting w) (ask : ProxyTarget → Exchange)
    (still : (ask w.target).edits = []) :
    let completed := (i.begin now request).2.1.complete now request w (ask w.target).reply
      (ask w.target).latency
    (i.handle now request ask).1 = completed.1 ∧ (i.handle now request ask).2.1 = completed.2.1 := by
  rw [handle_waits begun, still]
  exact ⟨rfl, rfl⟩

/-- Alike imposters answer a request alike, ask an origin or not alike, and stay alike. -/
theorem Alike.visit (h : i.Alike rename j) (injective : Function.Injective rename)
    (replies : Nat → Request → ProxyTarget → ProxyReply) (calls : Nat) {v v' : Visit}
    (request : v.request = v'.request) :
    (i.visit replies calls v).1 =
        (j.visit replies calls v').1.map (Resolution.rename rename) ∧
      (i.visit replies calls v).2.1.Alike rename (j.visit replies calls v').2.1 ∧
      (i.visit replies calls v).2.2 = (j.visit replies calls v').2.2 := by
  obtain ⟨begun, alike⟩ := h.begin injective v.now v'.now v'.request
  unfold Imposter.visit asks
  dsimp only
  rw [request]
  generalize startedI : (i.begin v.now v'.request).1 = x at begun
  generalize startedJ : (j.begin v'.now v'.request).1 = y at begun
  cases begun with
  | finished result =>
    rw [handle_finished startedI, handle_finished startedJ]
    exact ⟨rfl, alike, rfl⟩
  | @waiting x y stub target =>
    have left := handle_waiting startedI
      (fun target => ⟨[], replies calls v'.request target, v.latency⟩) rfl
    have right := handle_waiting startedJ
      (fun target => ⟨[], replies calls v'.request target, v'.latency⟩) rfl
    have completed := alike.complete injective v.now v'.now v'.request stub.id target
      (replies calls v'.request y.target) v.latency v'.latency
    dsimp only at left right
    rw [target] at left
    rw [left.1, left.2, right.1, right.2]
    exact ⟨completed.1, completed.2, rfl⟩

/-- Alike imposters answer any requests alike, step by step, and stay alike. -/
theorem Alike.visits (h : i.Alike rename j) (injective : Function.Injective rename)
    (replies : Nat → Request → ProxyTarget → ProxyReply) (calls : Nat) {vs vs' : List Visit}
    (requests : vs.map Visit.request = vs'.map Visit.request) :
    (i.visits replies calls vs).1 =
        (j.visits replies calls vs').1.map (Except.map (Resolution.rename rename)) ∧
      (i.visits replies calls vs).2.Alike rename (j.visits replies calls vs').2 := by
  -- both sides ask the origins for the same requests, so the numbers of the calls agree as well
  induction vs generalizing vs' i j calls with
  | nil =>
    obtain rfl : vs' = [] := List.map_eq_nil_iff.mp requests.symm
    exact ⟨rfl, h⟩
  | cons v vs ih =>
    cases vs' with
    | nil => cases requests
    | cons v' vs' =>
      obtain ⟨first, rest⟩ := List.cons.inj requests
      obtain ⟨result, alike, counted⟩ := h.visit injective replies calls first
      obtain ⟨results, last⟩ := ih alike (i.visit replies calls v).2.2 rest
      unfold Imposter.visits
      dsimp only
      rw [← counted, result, results]
      exact ⟨rfl, last⟩

end Imposter

/-! ### Exports that are built again -/

/-- An export for replay: what the imposter has seen is left out, and nothing else. -/
def ExportOptions.replay : ExportOptions := ⟨true, false⟩

theorem LiteralResponse.eq_plain {r : LiteralResponse} (h : r.same .plain = true) : r = .plain := by
  obtain ⟨status, headers, body, extra⟩ := r
  simp only [same, plain, Bool.and_eq_true, beq_iff_eq] at h
  obtain ⟨⟨⟨rfl, rfl⟩, bodies⟩, extras⟩ := h
  obtain rfl : body = none := by
    cases body with
    | none => rfl
    | some body => cases bodies
  cases extra with
  | nil => rfl
  | cons entry rest => simp [Json.sameMembers] at extras

theorem StubDefinition.eq_of_bare {d : StubDefinition} (h : d.records = []) :
    { d with records := [] } = d := by
  obtain ⟨predicates, responses, records⟩ := d
  cases h
  rfl

namespace Store

/-- The identity that a stub had before its export, by its number from the start of the list; numbers
    beyond the list stand for the identities that are given out next. -/
def restored (s : Store) (number : Nat) : Nat :=
  (s.ids[number]?).getD (s.nextId + (number - s.ids.length))

theorem restored_listed {s : Store} {number : Nat} (listed : number < s.ids.length) :
    s.restored number = s.ids[number] := by
  rw [restored, List.getElem?_eq_getElem listed, Option.getD_some]

theorem restored_new (s : Store) (n : Nat) : s.restored (s.ids.length + n) = s.nextId + n := by
  rw [restored, List.getElem?_eq_none (Nat.le_add_right _ _), Option.getD_none,
    Nat.add_sub_cancel_left]

theorem Sound.restored_injective {s : Store} (h : s.Sound) : Function.Injective s.restored := by
  have below {k : Nat} (listed : k < s.ids.length) : s.restored k < s.nextId := by
    rw [restored_listed listed]
    obtain ⟨stub, mem, id⟩ := mem_ids.mp (List.getElem_mem listed)
    exact id ▸ h.issued stub mem
  have above {k : Nat} (beyond : ¬k < s.ids.length) :
      s.restored k = s.nextId + (k - s.ids.length) := by
    have new := s.restored_new (k - s.ids.length)
    rwa [Nat.add_sub_cancel' (Nat.not_lt.mp beyond)] at new
  intro k l same
  by_cases listedK : k < s.ids.length <;> by_cases listedL : l < s.ids.length
  · rw [restored_listed listedK, restored_listed listedL] at same
    exact (h.distinct.getElem_inj_iff).mp same
  · have := below listedK
    rw [same, above listedL] at this
    omega
  · have := below listedL
    rw [← same, above listedK] at this
    omega
  · rw [above listedK, above listedL] at same
    omega

/-- Stubs can be made of the definitions of a sound store. -/
theorem Sound.enlistAll {s : Store} (h : s.Sound) :
    ∃ stubs t, (empty s.scripts).enlistAll (s.stubs.map Stub.definition) = (.ok stubs, t) ∧
      Enlisted (empty s.scripts) (s.stubs.map Stub.definition) stubs t := by
  rcases enlistAll_cases (empty s.scripts) (s.stubs.map Stub.definition) with
    ⟨e, issued, cells, -, d, mem, fault⟩ | made
  · obtain ⟨stub, there, rfl⟩ := List.mem_map.mp mem
    have compiles : PredicateTree.compile (empty s.scripts).scripts stub.definition.predicates =
        .ok stub.tree := (h.compiled stub there).tree
    rw [compiles] at fault
    cases fault
  · exact made

/-- The stubs made of the definitions of a sound store are twins of its own. -/
theorem Sound.enlisted_twins {s : Store} (h : s.Sound) {stubs : List Stub} {t : Store}
    (enlisted : Enlisted (empty s.scripts) (s.stubs.map Stub.definition) stubs t) :
    List.Forall₂ (Stub.Twin s.restored) s.stubs stubs := by
  have length : stubs.length = s.stubs.length := by
    simpa using congrArg List.length enlisted.ids
  refine List.forall₂_iff_get.mpr ⟨length.symm, fun k before after => ?_⟩
  simp only [List.get_eq_getElem]
  have id : stubs[k].id = k := by
    have range := congrArg (fun ids => ids[k]?) enlisted.ids
    simp [before, after, empty] at range
    exact range
  have definition : stubs[k].definition = s.stubs[k].definition := by
    have same := congrArg (fun ds => ds[k]?) enlisted.definitions
    simp [before, after] at same
    rw [same, StubDefinition.eq_of_bare (h.compiled s.stubs[k] (List.getElem_mem before)).bare]
  have old := (h.compiled s.stubs[k] (List.getElem_mem before)).tree
  have new := (enlisted.compiled stubs[k] (List.getElem_mem after)).tree
  rw [definition] at new
  refine ⟨?_, definition.symm, Except.ok.inj (old.symm.trans new)⟩
  rw [id, restored_listed (by simpa [ids] using before)]
  simp [ids]

/-- What is listed anew from the definitions of a sound store is like it, if no cursor has moved. -/
theorem Sound.alike_enlisted {s : Store} (h : s.Sound) {stubs : List Stub} {t : Store}
    (enlisted : Enlisted (empty s.scripts) (s.stubs.map Stub.definition) stubs t)
    (sound : ({ t with stubs := stubs } : Store).Sound)
    (unmoved : ∀ stub ∈ s.stubs, (s.stateAt stub.cell).cursor = .initial) :
    s.Alike s.restored { t with stubs := stubs } := by
  have number : t.nextId = s.ids.length := by simp [enlisted.store, ids, empty]
  have scripts : t.scripts = s.scripts := by rw [enlisted.store]; rfl
  have cells : t.cells = List.replicate s.stubs.length .initial := by simp [enlisted.store, empty]
  refine ⟨h, sound, scripts.symm, fun n => ?_, h.enlisted_twins enlisted, fun a ha b hb _ => ?_⟩
  · dsimp only
    rw [number, restored_new]
  · rw [unmoved a ha]
    simp only [stateAt, cells, List.getElem?_replicate]
    split <;> rfl

end Store

namespace Imposter

variable {c : Capabilities} {rename : Nat → Nat} {i j : Imposter}

theorem exported_replay (i : Imposter) :
    i.exported .replay =
      { port := i.port
        protocol := i.protocol
        name := i.name
        recordRequests := i.recordRequests
        recordMatches := i.recordMatches
        defaultResponse := if i.defaultResponse.same .plain then none else some i.defaultResponse
        stubs := i.store.stubs.map Stub.definition
        requestCount := none
        requests := [] } := by
  have every : i.exportStub .replay = fun stub => some stub.definition := rfl
  rw [exported, every, List.filterMap_eq_map']
  rfl

theorem Alike.exported_eq (h : i.Alike rename j) : i.exported .replay = j.exported .replay := by
  have definitions : i.store.stubs.map Stub.definition = j.store.stubs.map Stub.definition := by
    refine List.forall₂_eq_eq_eq ▸ ?_
    exact List.forall₂_map_left_iff.mpr (List.forall₂_map_right_iff.mpr
      (h.store.twins.imp fun a b twin => twin.definition))
  obtain ⟨_, _, _, rfl⟩ := h.same
  rw [exported_replay, exported_replay, definitions]

theorem Sound.exported_wellFormed (h : i.Sound c) : (i.exported .replay).WellFormed := by
  rw [exported_replay]
  refine ⟨fun r mem => ?_, fun d mem => ?_, by simp⟩
  · dsimp only at mem
    split at mem
    · cases mem
    · cases mem
      exact h.defaultResponse
  · obtain ⟨stub, there, rfl⟩ := List.mem_map.mp mem
    exact h.definitions stub there

/-- No cursor has moved. -/
def Unmoved (i : Imposter) : Prop :=
  ∀ stub ∈ i.store.stubs, (i.store.stateAt stub.cell).cursor = .initial

/-- An export can be built with anything that lets the same scripts decide, and what is built is like
    the original with that at its disposal and open, if no cursor of the original has moved. -/
theorem build_exported_with (store : i.store.Sound) (scripts : i.store.scripts = c.scripts) :
    ∃ j, build c (i.exported .replay) = .ok j ∧
      (i.Unmoved → Alike i.store.restored { i with capabilities := c, closed := false } j) := by
  obtain ⟨stubs, t, made, enlisted⟩ := store.enlistAll
  have applied : (Store.empty c.scripts).apply (.replaceAll (i.store.stubs.map Stub.definition)) =
      (.ok (.replacedAll (stubs.map Stub.id)), { t with stubs := stubs }) := by
    rw [← scripts]
    simp only [Store.apply, made]
  have sound : ({ t with stubs := stubs } : Store).Sound := by
    have edited := Store.apply_edited (Store.empty c.scripts)
      (.replaceAll (i.store.stubs.map Stub.definition))
    rw [applied] at edited
    exact edited.sound (Store.sound_empty c.scripts)
  have defaultResponse : (if i.defaultResponse.same .plain then none
      else some i.defaultResponse).getD .plain = i.defaultResponse := by
    split
    · next plain => exact (LiteralResponse.eq_plain plain).symm
    · rfl
  refine ⟨{ i with
      capabilities := c, closed := false, store := { t with stubs := stubs }, requests := [],
      count := 0 }, ?_, fun unmoved => ⟨⟨_, _, _, rfl⟩, store.alike_enlisted enlisted sound unmoved⟩⟩
  rw [exported_replay, build]
  simp only [applied, defaultResponse]

/-- The export of a sound imposter can be built, and what is built is like the original if no cursor
    of the original has moved. -/
theorem Sound.build_exported (h : i.Sound c) :
    ∃ j, build c (i.exported .replay) = .ok j ∧ (i.Unmoved → i.Alike i.store.restored j) := by
  have itself : { i with capabilities := c, closed := false } = i := by
    rw [← h.capabilities, ← h.opened]
  obtain ⟨j, built, alike⟩ := build_exported_with h.store h.scripts
  rw [itself] at alike
  exact ⟨j, built, alike⟩

/-- However an imposter has come about, if the definitions that its commands carried are ones that a
    reading yields: the value that its export for replay is written as can be read, and the imposter
    can be built from it.  If no cursor has moved, then under one renaming of
    identities the one answers any requests as the other does, with the same responses and the same
    errors at every step, and their exports agree in the end.  The origins reply by the number of
    the call, the request and the target; when requests come and how long origins take makes no
    difference. -/
theorem reimport_behaves_alike (reached : Reached c StubDefinition.decode.Reads i) :
    ∃ d j, ImposterDefinition.decode (i.exported .replay).encode = .ok d ∧ build c d = .ok j ∧
      (i.Unmoved → ∃ rename : Nat → Nat, Function.Injective rename ∧
        ∀ (replies : Nat → Request → ProxyTarget → ProxyReply) (calls : Nat) (vs vs' : List Visit),
          vs.map Visit.request = vs'.map Visit.request →
            (i.visits replies calls vs).1 =
                (j.visits replies calls vs').1.map (Except.map (Resolution.rename rename)) ∧
              (i.visits replies calls vs).2.exported .replay =
                (j.visits replies calls vs').2.exported .replay) := by
  have sound := reached.sound
  obtain ⟨j, built, alike⟩ := sound.build_exported
  refine ⟨i.exported .replay, j, ImposterDefinition.decode_encode sound.exported_wellFormed, built,
    fun unmoved => ⟨i.store.restored, sound.store.restored_injective, ?_⟩⟩
  intro replies calls vs vs' requests
  obtain ⟨results, last⟩ :=
    (alike unmoved).visits sound.store.restored_injective replies calls requests
  exact ⟨results, last.exported_eq⟩

/-- An imposter with one stub, a proxy that records once. -/
def proxyOnce : Json :=
  .arr [.num (.int 4545), .str "http", .null, .bool false, .bool false, .null,
    .arr [.arr [.arr [], .arr [.obj [("proxy", .arr [.str "http://origin"])]]]]]

/-- At its disposal is a broker, which may take a second, and no injector. -/
def brokerOnly : Capabilities := ⟨true, false, 1000⟩

/-- The stub of the proxy. -/
def proxyStub : Stub := ⟨0, ⟨[], [.proxy (.bare "http://origin" .once)], []⟩, [], 0⟩

/-- The imposter once it is built. -/
def proxying : Imposter where
  port := 4545
  protocol := "http"
  name := none
  recordRequests := false
  recordMatches := false
  defaultResponse := .plain
  capabilities := brokerOnly
  store := ⟨[proxyStub], 1, [.initial], false⟩
  requests := []
  count := 0
  closed := false

/-- The origin says that all is well. -/
def allIsWell : ProxyTarget → Exchange := fun _ => ⟨[], .response .plain, ⟨0⟩⟩

/-- The imposter after a request that it has recorded, and a command that fails. -/
def recorded : Imposter := ((proxying.handle ⟨0, 0⟩ [] allIsWell).2.1.edit (.remove 7)).2

theorem proxying_reached (Given : StubDefinition → Prop) : Reached brokerOnly Given proxying := by
  have wf : proxyOnce.WellFormed := by
    simp [proxyOnce, Json.WellFormed, Json.WellFormedItems, Json.WellFormedMembers, Dict.Sorted,
      Dict.Above, Number.WellFormed]
  exact .built ⟨proxyOnce, wf, rfl⟩ (rfl : build brokerOnly _ = .ok proxying)

theorem recorded_reached : Reached brokerOnly StubDefinition.decode.Reads recorded := by
  have written : LiteralResponse.plain.encode.WellFormed := by
    simp [LiteralResponse.encode, LiteralResponse.plain, Json.ofPairs, Dict.ofList, Dict.insert,
      Json.WellFormed, Json.WellFormedMembers, Dict.Sorted, Dict.Above, Json.nat, Number.WellFormed]
  have replied : ∀ target response, (allIsWell target).reply = .response response →
      LiteralResponse.decode.Reads response := by
    intro target response reply
    cases reply
    exact ⟨_, written, LiteralResponse.decode_encode LiteralResponse.plain_wellFormed⟩
  exact ((proxying_reached _).handled ⟨0, 0⟩ Json.wellFormed_nil (by simp [allIsWell])
    replied).edited (by simp [StoreCommand.definitions])

theorem recorded_unmoved : recorded.Unmoved := by
  have stubs : recorded.store.stubs =
      [⟨1, ⟨[], [.literal .plain none], []⟩, [], 1⟩, proxyStub] := rfl
  intro stub mem
  rw [stubs] at mem
  simp only [List.mem_cons, List.not_mem_nil, or_false] at mem
  rcases mem with rfl | rfl <;> rfl

theorem recorded_behaves_alike :
    ∃ d j, ImposterDefinition.decode (recorded.exported .replay).encode = .ok d ∧
      build brokerOnly d = .ok j ∧
      ∃ rename : Nat → Nat, Function.Injective rename ∧
        ∀ (replies : Nat → Request → ProxyTarget → ProxyReply) (calls : Nat) (vs vs' : List Visit),
          vs.map Visit.request = vs'.map Visit.request →
            (recorded.visits replies calls vs).1 =
                (j.visits replies calls vs').1.map (Except.map (Resolution.rename rename)) ∧
              (recorded.visits replies calls vs).2.exported .replay =
                (j.visits replies calls vs').2.exported .replay := by
  obtain ⟨d, j, read, built, alike⟩ := reimport_behaves_alike recorded_reached
  exact ⟨d, j, read, built, alike recorded_unmoved⟩

/-- A stub whose response is to be served zero times in a row.  The cursor takes that for once, but no
    reading yields such a stub. -/
def zeroTimes : StubDefinition := ⟨[], [.literal .plain (some 0)], []⟩

/-- The imposter once that stub has been inserted. -/
def withZero : Imposter := (proxying.edit (.insert zeroTimes none)).2

/-- Of commands that carry any definitions the same cannot be said: a stub is inserted, no cursor has
    moved, and what the export for replay is written as is not read. -/
theorem inserted_zero_not_rebuilt :
    (proxying.edit (.insert zeroTimes none)).1 = .ok (.inserted 1) ∧
      Reached brokerOnly (fun _ => True) withZero ∧ withZero.Unmoved ∧
      ¬∃ d j, ImposterDefinition.decode (withZero.exported .replay).encode = .ok d ∧
        build brokerOnly d = .ok j := by
  have stubs : withZero.store.stubs = [proxyStub, ⟨1, zeroTimes, [], 1⟩] := rfl
  refine ⟨rfl, (proxying_reached _).edited fun _ _ => trivial, fun stub mem => ?_, ?_⟩
  · rw [stubs] at mem
    simp only [List.mem_cons, List.not_mem_nil, or_false] at mem
    rcases mem with rfl | rfl <;> rfl
  · rintro ⟨d, j, read, -⟩
    have listed : zeroTimes ∈ (withZero.exported .replay).stubs := by
      rw [exported_replay, stubs]
      exact List.mem_cons_of_mem _ List.mem_cons_self
    exact ImposterDefinition.unread_of_zero listed List.mem_cons_self read

end Imposter

end VirtualService
