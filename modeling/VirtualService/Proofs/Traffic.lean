/-
  VirtualService/Proofs/Traffic.lean
  ==================================
  **What happens while requests wait.**

  While a request waits for its origin anything may happen to the imposter: edits,
  other requests, their completions.  Traffic is an imposter together with the
  requests that wait, a journal of what was seen to happen, and what was measured.
  To handle a request with nothing but edits in between is to let it arrive, to
  edit, and to let its origin reply (`Traffic.after_handle`), so what holds along
  any traffic is shown for these parts alone (`Traffic.run_keeps`).
-/
import VirtualService.Proofs.Cycling
import VirtualService.Proofs.Handling
import VirtualService.Proofs.History

namespace VirtualService

/-! ### What a request comes to -/

namespace Imposter

variable {i : Imposter} {now : Timestamp} {request : Request}

/-- All that the beginning of a request can lead to, with the imposter and the measurements then. -/
inductive Begins (i : Imposter) (now : Timestamp) (request : Request) :
    Begun → Imposter → Metrics → Prop
  | refused (closed : i.closed = true) :
      Begins i now request (.finished (.error (.imposter (.closed i.port)))) i []
  | missed (opened : i.closed = false) (nothing : (i.store.resolve request).1 = none) :
      Begins i now request (.finished (.ok ⟨i.defaultResponse, .default⟩)) (i.asked now request)
        [.resolution "default"]
  | served (opened : i.closed = false) (selected : Selection) (response : LiteralResponse)
      (repeats : Option UInt32) (found : (i.store.resolve request).1 = some selected)
      (canned : selected.response = .literal response repeats) :
      Begins i now request (.finished (.ok ⟨response, .matched selected.stub.id selected.place⟩))
        ((i.asked now request).remember selected.stub now request response)
        [.resolution "matched"]
  | unbrokered (opened : i.closed = false) (selected : Selection) (target : ProxyTarget)
      (found : (i.store.resolve request).1 = some selected)
      (proxy : selected.response = .proxy target) (alone : i.capabilities.brokered = false) :
      Begins i now request (.finished (.error (.resolve .noProxyBroker))) (i.asked now request)
        [.resolution "error"]
  | waits (opened : i.closed = false) (selected : Selection) (target : ProxyTarget)
      (found : (i.store.resolve request).1 = some selected)
      (proxy : selected.response = .proxy target) (brokered : i.capabilities.brokered = true) :
      Begins i now request (.waiting ⟨selected.stub, target⟩) (i.asked now request) []

theorem begin_begins (i : Imposter) (now : Timestamp) (request : Request) :
    i.Begins now request (i.begin now request).1 (i.begin now request).2.1
      (i.begin now request).2.2 := by
  cases closed : i.closed with
  | true =>
    rw [begin_closed closed]
    exact .refused closed
  | false =>
    rw [begin_opened closed]
    split
    · next nothing => exact .missed closed nothing
    · next selected found =>
      split
      · next response repeats canned => exact .served closed selected response repeats found canned
      · next target proxy =>
        by_cases brokered : i.capabilities.brokered = true
        · rw [if_pos brokered]
          exact .waits closed selected target found proxy brokered
        · rw [if_neg brokered]
          exact .unbrokered closed selected target found proxy (by simpa using brokered)

/-- All that the reply of an origin can lead to. -/
inductive Completes (i : Imposter) (now : Timestamp) (request : Request) (w : Waiting)
    (reply : ProxyReply) (latency : Double) :
    Except HandleError Resolution → Imposter → Metrics → Prop
  | failed (target reason : String) (failure : reply.label = "unavailable" ∨ reply.label = "timeout") :
      Completes i now request w reply latency
        (.error (.resolve (.upstreamUnavailable target reason))) i
        [.proxyCall w.target.mode.key reply.label latency, .resolution "error"]
  | answered (response : LiteralResponse) (replied : reply = .response response) :
      Completes i now request w reply latency
        (.ok ⟨response, .proxied w.stub.id w.target.mode (i.recordAnswer request w response).1⟩)
        ((i.recordAnswer request w response).2.1.remember w.stub now request response)
        (.proxyCall w.target.mode.key "ok" latency ::
          (i.recordAnswer request w response).2.2 ++ [.resolution "proxied"])

theorem complete_completes (i : Imposter) (now : Timestamp) (request : Request) (w : Waiting)
    (reply : ProxyReply) (latency : Double) :
    let done := i.complete now request w reply latency
    i.Completes now request w reply latency done.1 done.2.1 done.2.2 := by
  cases reply with
  | response response => exact .answered response rfl
  | unreachable address reason => exact .failed _ _ (.inl rfl)
  | invalid reason => exact .failed _ _ (.inl rfl)
  | silent => exact .failed _ _ (.inr rfl)

/-! ### What is left as it is -/

/-- One imposter is another with other stubs or states of stubs. -/
def Restocked (i j : Imposter) : Prop := ∃ store, j = { i with store := store }

theorem Restocked.refl (i : Imposter) : i.Restocked i := ⟨i.store, rfl⟩

theorem Restocked.trans {i j k : Imposter} (ij : i.Restocked j) (jk : j.Restocked k) :
    i.Restocked k := by
  obtain ⟨_, rfl⟩ := ij
  obtain ⟨store, rfl⟩ := jk
  exact ⟨store, rfl⟩

theorem remember_restocked (i : Imposter) (stub : Stub) (now : Timestamp) (request : Request)
    (response : LiteralResponse) : i.Restocked (i.remember stub now request response) := by
  unfold remember
  split
  · exact ⟨_, rfl⟩
  · exact .refl i

theorem editAll_restocked (i : Imposter) (commands : List StoreCommand) :
    i.Restocked (i.editAll commands) := by
  induction commands generalizing i with
  | nil => exact .refl i
  | cons command commands ih => exact .trans ⟨_, rfl⟩ (ih (i.edit command).2)

theorem recordAnswer_restocked (i : Imposter) (request : Request) (w : Waiting)
    (response : LiteralResponse) : i.Restocked (i.recordAnswer request w response).2.1 := by
  unfold recordAnswer
  split
  · exact .refl i
  · exact ⟨_, rfl⟩

theorem complete_restocked (i : Imposter) (now : Timestamp) (request : Request) (w : Waiting)
    (reply : ProxyReply) (latency : Double) :
    i.Restocked (i.complete now request w reply latency).2.1 := by
  unfold complete
  dsimp only
  split
  · exact .refl i
  · next response _ =>
    exact (recordAnswer_restocked i request w response).trans
      (remember_restocked _ w.stub now request response)

theorem begin_restocked (opened : i.closed = false) (now : Timestamp) (request : Request) :
    (i.accept now request).Restocked (i.begin now request).2.1 := by
  have asked : (i.accept now request).Restocked (i.asked now request) := ⟨_, rfl⟩
  have begins := begin_begins i now request
  generalize i.begin now request = b at begins
  obtain ⟨started, i', measured⟩ := b
  dsimp only at begins ⊢
  cases begins with
  | refused closed => simp [opened] at closed
  | missed _ _ => exact asked
  | served _ selected response _ _ _ =>
    exact asked.trans (remember_restocked _ selected.stub now request response)
  | unbrokered _ _ _ _ _ _ => exact asked
  | waits _ _ _ _ _ _ => exact asked

theorem handle_restocked (opened : i.closed = false) (now : Timestamp) (request : Request)
    (ask : ProxyTarget → Exchange) :
    (i.accept now request).Restocked (i.handle now request ask).2.1 := by
  have begun := begin_restocked opened now request
  cases started : (i.begin now request).1 with
  | finished result =>
    rw [handle_finished started]
    exact begun
  | waiting w =>
    rw [handle_waits started]
    exact begun.trans ((editAll_restocked _ _).trans (complete_restocked _ now request w _ _))

/-- A closed imposter refuses requests, without a look at its stubs or its origins. -/
theorem handle_closed (closed : i.closed = true) (now : Timestamp) (request : Request)
    (ask : ProxyTarget → Exchange) :
    i.handle now request ask = (.error (.imposter (.closed i.port)), i, []) := by
  have begun := begin_closed closed now request
  rw [handle_finished (congrArg Prod.fst begun), begun]

end Imposter

/-! ### The journal -/

/-- The stub that has answered, if one has. -/
def Outcome.stub? : Outcome → Option Nat
  | .matched stub _ => some stub
  | .proxied stub _ _ => some stub
  | .default => none

/-- Something that is seen to happen to an imposter. -/
inductive Happening where
  /-- A stub is the first to recognise a request. -/
  | recognised (id : Nat)
  /-- A request that was handled comes to its end. -/
  | ended (now : Timestamp) (request : Request) (result : Except HandleError Resolution)
  /-- The statistics of a stub are forgotten. -/
  | forgot (id : Nat)

namespace Happening

/-- The stub that is concerned, if one is. -/
def stub? : Happening → Option Nat
  | recognised id => some id
  | ended _ _ (.ok resolution) => resolution.outcome.stub?
  | ended _ _ (.error _) => none
  | forgot id => some id

/-- How a request has ended, if this is its end. -/
def result? : Happening → Option (Except HandleError Resolution)
  | ended _ _ result => some result
  | recognised _ | forgot _ => none

end Happening

namespace Imposter

/-- The stub that is the first to recognise a request. -/
def finds (i : Imposter) (request : Request) : List Happening :=
  (i.store.recognised request).toList.map Happening.recognised

/-- What is seen of an event. -/
def happenings (i : Imposter) : ImposterEvent → List Happening
  | .handle now request ask =>
      (if i.closed then [] else i.finds request) ++ [.ended now request (i.handle now request ask).1]
  | .answer request => i.finds request
  | .clearStatistics id => if (i.store.clearStatistics id).1 then [.forgot id] else []
  | .edit _ | .clearRequests | .close => []

/-- What is measured of an event. -/
def measures (i : Imposter) : ImposterEvent → Metrics
  | .handle now request ask => (i.handle now request ask).2.2
  | .edit _ | .answer _ | .clearStatistics _ | .clearRequests | .close => []

end Imposter

/-! ### Traffic -/

/-- A request that waits for its origin. -/
structure Pending where
  request : Request
  waiting : Waiting

/-- An imposter and its requests that wait, what has happened so far, and what was measured. -/
structure Traffic where
  imposter : Imposter
  pending : List Pending
  journal : List Happening
  measured : Metrics

inductive TrafficEvent where
  /-- An event of the imposter; a request is handled with nothing but edits in between. -/
  | whole (event : ImposterEvent)
  /-- A request is handed in; if it has to wait, anything may happen before its origin replies. -/
  | arrive (now : Timestamp) (request : Request)
  /-- The origin replies to a request that waits. -/
  | reply (index : Nat) (now : Timestamp) (reply : ProxyReply) (latency : Double)
  /-- The present definition is asked for. -/
  | exported (options : ExportOptions)

/-- The event is no request that is handled as a whole. -/
def TrafficEvent.Part : TrafficEvent → Prop
  | .whole (.handle _ _ _) => False
  | _ => True

namespace Traffic

/-- No request waits, and nothing has happened. -/
def start (i : Imposter) : Traffic := ⟨i, [], [], []⟩

def imposterAfter (t : Traffic) : TrafficEvent → Imposter
  | .whole event => t.imposter.after event
  | .arrive now request => (t.imposter.begin now request).2.1
  | .reply index now reply latency =>
      match t.pending[index]? with
      | none => t.imposter
      | some p => (t.imposter.complete now p.request p.waiting reply latency).2.1
  | .exported _ => t.imposter

def pendingAfter (t : Traffic) : TrafficEvent → List Pending
  | .arrive now request =>
      match (t.imposter.begin now request).1 with
      | .finished _ => t.pending
      | .waiting w => ⟨request, w⟩ :: t.pending
  | .reply index _ _ _ => t.pending.eraseIdx index
  | .whole _ | .exported _ => t.pending

def happenings (t : Traffic) : TrafficEvent → List Happening
  | .whole event => t.imposter.happenings event
  | .arrive now request =>
      (if t.imposter.closed then [] else t.imposter.finds request) ++
        match (t.imposter.begin now request).1 with
        | .finished result => [.ended now request result]
        | .waiting _ => []
  | .reply index now reply latency =>
      match t.pending[index]? with
      | none => []
      | some p =>
          [.ended now p.request (t.imposter.complete now p.request p.waiting reply latency).1]
  | .exported _ => []

def measures (t : Traffic) : TrafficEvent → Metrics
  | .whole event => t.imposter.measures event
  | .arrive now request => (t.imposter.begin now request).2.2
  | .reply index now reply latency =>
      match t.pending[index]? with
      | none => []
      | some p => (t.imposter.complete now p.request p.waiting reply latency).2.2
  | .exported _ => []

/-- The traffic after an event. -/
def after (t : Traffic) (event : TrafficEvent) : Traffic :=
  ⟨t.imposterAfter event, t.pendingAfter event, t.journal ++ t.happenings event,
    t.measured ++ t.measures event⟩

def run (t : Traffic) (events : List TrafficEvent) : Traffic := events.foldl after t

theorem run_append (t : Traffic) (first second : List TrafficEvent) :
    t.run (first ++ second) = (t.run first).run second := List.foldl_append ..

/-! ### One event -/

theorem after_arrive {P : Traffic → Prop} (t : Traffic) (now : Timestamp) (request : Request)
    (finished : ∀ result i measured,
      t.imposter.Begins now request (.finished result) i measured →
        P ⟨i, t.pending, t.journal ++ ((if t.imposter.closed then [] else t.imposter.finds request) ++
          [.ended now request result]), t.measured ++ measured⟩)
    (waiting : ∀ w i measured, t.imposter.Begins now request (.waiting w) i measured →
        P ⟨i, ⟨request, w⟩ :: t.pending,
          t.journal ++ if t.imposter.closed then [] else t.imposter.finds request,
          t.measured ++ measured⟩) :
    P (t.after (.arrive now request)) := by
  have begins := Imposter.begin_begins t.imposter now request
  unfold after imposterAfter pendingAfter happenings measures
  dsimp only
  generalize t.imposter.begin now request = b at begins
  obtain ⟨started, i, measured⟩ := b
  cases started with
  | finished result => exact finished result i measured begins
  | waiting w =>
    dsimp only
    rw [List.append_nil]
    exact waiting w i measured begins

theorem after_reply {P : Traffic → Prop} (t : Traffic) (index : Nat) (now : Timestamp)
    (reply : ProxyReply) (latency : Double) (nobody : P t)
    (completed : ∀ p ∈ t.pending, t.pending[index]? = some p → ∀ result i measured,
      t.imposter.Completes now p.request p.waiting reply latency result i measured →
        P ⟨i, t.pending.eraseIdx index, t.journal ++ [.ended now p.request result],
          t.measured ++ measured⟩) :
    P (t.after (.reply index now reply latency)) := by
  unfold after imposterAfter pendingAfter happenings measures
  dsimp only
  cases there : t.pending[index]? with
  | none =>
    have still : t.pending.eraseIdx index = t.pending :=
      List.eraseIdx_of_length_le (List.getElem?_eq_none_iff.mp there)
    simpa [still] using nobody
  | some p =>
    exact completed p (List.mem_of_getElem? there) there _ _ _
      (Imposter.complete_completes t.imposter now p.request p.waiting reply latency)

/-! ### The parts of a request -/

/-- What handling a request consists of. -/
def parts (i : Imposter) (now : Timestamp) (request : Request) (ask : ProxyTarget → Exchange) :
    List TrafficEvent :=
  .arrive now request ::
    match (i.begin now request).1 with
    | .finished _ => []
    | .waiting w =>
        (ask w.target).edits.map (fun command => .whole (.edit command)) ++
          [.reply 0 now (ask w.target).reply (ask w.target).latency]

theorem run_edits (t : Traffic) (commands : List StoreCommand) :
    t.run (commands.map fun command => .whole (.edit command)) =
      { t with imposter := t.imposter.editAll commands } := by
  induction commands generalizing t with
  | nil => rfl
  | cons command commands ih =>
    have one : t.after (.whole (.edit command)) =
        { t with imposter := (t.imposter.edit command).2 } := by
      simp [after, imposterAfter, pendingAfter, happenings, measures, Imposter.after,
        Imposter.happenings, Imposter.measures]
    rw [List.map_cons, run, List.foldl_cons, one]
    exact ih _

/-- To handle a request as a whole is to go through its parts. -/
theorem after_handle (t : Traffic) (now : Timestamp) (request : Request)
    (ask : ProxyTarget → Exchange) :
    t.after (.whole (.handle now request ask)) = t.run (parts t.imposter now request ask) := by
  unfold parts
  cases begun : (t.imposter.begin now request).1 with
  | finished result =>
    have handled := Imposter.handle_finished begun ask
    simp [run, after, imposterAfter, pendingAfter, happenings, measures, Imposter.after,
      Imposter.happenings, Imposter.measures, begun, handled]
  | waiting w =>
    have handled := Imposter.handle_waits begun ask
    have arrived : t.after (.arrive now request) =
        ⟨(t.imposter.begin now request).2.1, ⟨request, w⟩ :: t.pending,
          t.journal ++ if t.imposter.closed then [] else t.imposter.finds request,
          t.measured ++ (t.imposter.begin now request).2.2⟩ := by
      simp [after, imposterAfter, pendingAfter, happenings, measures, begun]
    dsimp only
    rw [run, List.foldl_cons, arrived]
    change _ = run _ (_ ++ _)
    rw [run_append, run_edits]
    simp [run, after, imposterAfter, pendingAfter, happenings, measures, Imposter.after,
      Imposter.happenings, Imposter.measures, handled]

theorem parts_part {i : Imposter} {now : Timestamp} {request : Request}
    {ask : ProxyTarget → Exchange} : ∀ event ∈ parts i now request ask, event.Part := by
  unfold parts
  intro event mem
  rcases List.mem_cons.mp mem with rfl | mem
  · trivial
  · split at mem
    · cases mem
    · rcases List.mem_append.mp mem with edit | last
      · obtain ⟨command, -, rfl⟩ := List.mem_map.mp edit
        trivial
      · rw [List.mem_singleton.mp last]
        trivial

/-- What every part of a kind keeps, any traffic of this kind keeps; the parts of a request that is
    handled as a whole are of the kind if it is. -/
theorem run_keeps_where {A : TrafficEvent → Prop} {P : Traffic → Prop}
    (divides : ∀ i now request ask, A (.whole (.handle now request ask)) →
      ∀ event ∈ parts i now request ask, A event)
    (step : ∀ (t : Traffic) (event : TrafficEvent), event.Part → A event → P t → P (t.after event))
    {t : Traffic} (h : P t) {events : List TrafficEvent} (are : ∀ event ∈ events, A event) :
    P (t.run events) := by
  have keepsParts : ∀ (events : List TrafficEvent) (t : Traffic),
      (∀ event ∈ events, event.Part ∧ A event) → P t → P (t.run events) := by
    intro events
    induction events with
    | nil => exact fun _ _ h => h
    | cons event events ih =>
      intro t are h
      obtain ⟨part, kind⟩ := are event List.mem_cons_self
      exact ih _ (fun other mem => are other (List.mem_cons_of_mem _ mem)) (step t event part kind h)
  induction events generalizing t with
  | nil => exact h
  | cons event events ih =>
    have kind := are event List.mem_cons_self
    refine ih ?_ fun other mem => are other (List.mem_cons_of_mem _ mem)
    rcases event with (event | _ | _ | _)
    · cases event with
      | handle now request ask =>
        -- none of the parts is a whole request again, so they need no induction of this kind
        rw [after_handle]
        exact keepsParts _ t
          (fun event mem => ⟨parts_part event mem, divides _ _ _ _ kind event mem⟩) h
      | _ => exact step t _ trivial kind h
    all_goals exact step t _ trivial kind h

/-- What every part keeps, any traffic keeps. -/
theorem run_keeps {P : Traffic → Prop}
    (step : ∀ (t : Traffic) (event : TrafficEvent), event.Part → P t → P (t.after event))
    {t : Traffic} (h : P t) (events : List TrafficEvent) : P (t.run events) :=
  run_keeps_where (A := fun _ => True) (fun _ _ _ _ _ _ _ => trivial)
    (fun t event part _ => step t event part) h fun _ _ => trivial

/-! ### The store of an imposter with traffic -/

theorem after_leads (t : Traffic) (event : TrafficEvent) :
    t.imposter.store.Leads (t.after event).imposter.store := by
  cases event with
  | whole event => exact Imposter.after_leads t.imposter event
  | arrive now request => exact Imposter.begin_leads t.imposter now request
  | reply index now reply latency =>
    unfold after imposterAfter
    dsimp only
    split
    · exact .refl _
    · next p _ => exact Imposter.complete_leads t.imposter now p.request p.waiting reply latency
  | exported options => exact .refl _

theorem run_leads (t : Traffic) (events : List TrafficEvent) :
    t.imposter.store.Leads (t.run events).imposter.store := by
  induction events generalizing t with
  | nil => exact .refl _
  | cons event events ih => exact (after_leads t event).trans (ih (t.after event))

theorem built_leads {c : Capabilities} {d : ImposterDefinition} {i : Imposter}
    (built : Imposter.build c d = .ok i) (events : List TrafficEvent) :
    (Store.empty c.scripts).Leads ((start i).run events).imposter.store :=
  (Imposter.build_leads built).trans (run_leads (start i) events)

end Traffic

end VirtualService
