/-
  VirtualService/Proofs/RequestLog.lean
  =====================================
  **The number and the log of requests.**

  An imposter counts the requests that it accepts, and keeps them if it is to.  A
  request is accepted when it is handed in before the first close, whatever it comes
  to and whenever its origin replies (`TrafficEvent.accepted`).  Clearing begins both
  anew, and nothing opens an imposter again.
-/
import Mathlib.Data.List.DropRight
import Mathlib.Data.List.Induction
import VirtualService.Proofs.Traffic

namespace VirtualService

/-! ### Calls -/

namespace TrafficEvent

/-- The request that is handed in, with the instant. -/
def call? : TrafficEvent → Option RecordedRequest
  | whole (.handle now request _) => some ⟨now, request⟩
  | arrive now request => some ⟨now, request⟩
  | _ => none

def closes : TrafficEvent → Bool
  | whole .close => true
  | _ => false

def clears : TrafficEvent → Bool
  | whole .clearRequests => true
  | _ => false

/-- The events without the calls that come after the first close. -/
def heard : List TrafficEvent → List TrafficEvent
  | [] => []
  | event :: events =>
      event :: if event.closes then events.filter fun later => later.call?.isNone else heard events

/-- The calls that are made before the first close. -/
def accepted (events : List TrafficEvent) : List RecordedRequest := (heard events).filterMap call?

/-- The calls that are made before the first close and since the requests were last cleared. -/
def acceptedSinceCleared (events : List TrafficEvent) : List RecordedRequest :=
  ((heard events).rtakeWhile fun event => !event.clears).filterMap call?

variable {events : List TrafficEvent} {event : TrafficEvent}

theorem heard_concat (events : List TrafficEvent) (event : TrafficEvent) :
    heard (events ++ [event]) =
      if events.any closes && event.call?.isSome then heard events else heard events ++ [event] := by
  induction events with
  | nil => simp [heard]
  | cons first events ih =>
    rw [List.cons_append, heard, heard, List.any_cons]
    by_cases closed : first.closes = true
    · cases call : event.call? <;> simp [closed, call, List.filter_append]
    · rw [if_neg closed, if_neg closed, ih]
      simp only [Bool.not_eq_true] at closed
      rw [closed, Bool.false_or]
      split <;> simp

/-- Nothing is accepted after a close. -/
theorem heard_deaf (closed : events.any closes = true) {call : RecordedRequest}
    (made : event.call? = some call) : heard (events ++ [event]) = heard events := by
  rw [heard_concat, closed, made]
  simp

theorem accepted_call (opened : events.any closes = false) {call : RecordedRequest}
    (made : event.call? = some call) : accepted (events ++ [event]) = accepted events ++ [call] := by
  rw [accepted, heard_concat, opened]
  simp [accepted, made]

theorem accepted_other (none : event.call? = none) :
    accepted (events ++ [event]) = accepted events := by
  rw [accepted, heard_concat, none]
  simp [accepted, none]

theorem call_clears {call : RecordedRequest} (made : event.call? = some call) :
    event.clears = false := by
  rcases event with (event | _ | _ | _)
  · cases event <;> simp_all [call?, clears]
  all_goals rfl

theorem call_closes {call : RecordedRequest} (made : event.call? = some call) :
    event.closes = false := by
  rcases event with (event | _ | _ | _)
  · cases event <;> simp_all [call?, closes]
  all_goals rfl

theorem eq_of_clears (clears : event.clears = true) : event = .whole .clearRequests := by
  rcases event with (event | _ | _ | _)
  · cases event <;> simp_all [TrafficEvent.clears]
  all_goals cases clears

theorem eq_of_closes (closes : event.closes = true) : event = .whole .close := by
  rcases event with (event | _ | _ | _)
  · cases event <;> simp_all [TrafficEvent.closes]
  all_goals cases closes

theorem acceptedSinceCleared_call (opened : events.any closes = false) {call : RecordedRequest}
    (made : event.call? = some call) :
    acceptedSinceCleared (events ++ [event]) = acceptedSinceCleared events ++ [call] := by
  unfold acceptedSinceCleared
  rw [heard_concat, opened, Bool.false_and, if_neg (by simp),
    List.rtakeWhile_concat_pos _ _ _ (by simp [call_clears made]), List.filterMap_append]
  simp [made]

theorem acceptedSinceCleared_other (none : event.call? = none) (kept : event.clears = false) :
    acceptedSinceCleared (events ++ [event]) = acceptedSinceCleared events := by
  unfold acceptedSinceCleared
  rw [heard_concat, none, Option.isSome_none, Bool.and_false, if_neg (by simp),
    List.rtakeWhile_concat_pos _ _ _ (by simp [kept]), List.filterMap_append]
  simp [none]

theorem acceptedSinceCleared_clear :
    acceptedSinceCleared (events ++ [.whole .clearRequests]) = [] := by
  unfold acceptedSinceCleared
  rw [heard_concat, show (TrafficEvent.whole .clearRequests).call? = none from rfl,
    Option.isSome_none, Bool.and_false, if_neg (by simp),
    List.rtakeWhile_concat_neg _ _ _ (by simp [clears])]
  rfl

end TrafficEvent

/-! ### What an event does to the log -/

namespace Traffic

variable {t : Traffic} {event : TrafficEvent}

theorem after_closed (closed : t.imposter.closed = true) {call : RecordedRequest}
    (made : event.call? = some call) : (t.after event).imposter = t.imposter := by
  rcases event with (event | _ | _ | _)
  · cases event with
    | handle now request ask => exact congrArg (·.2.1) (Imposter.handle_closed closed now request ask)
    | _ => cases made
  · next now request => exact congrArg (·.2.1) (Imposter.begin_closed closed now request)
  all_goals cases made

theorem after_opened (opened : t.imposter.closed = false) {call : RecordedRequest}
    (made : event.call? = some call) :
    (t.imposter.accept call.time call.request).Restocked (t.after event).imposter := by
  rcases event with (event | _ | _ | _)
  · cases event with
    | handle now request ask =>
      cases made
      exact Imposter.handle_restocked opened now request ask
    | _ => cases made
  · next now request =>
    cases made
    exact Imposter.begin_restocked opened now request
  all_goals cases made

theorem after_other (none : event.call? = none) (kept : event.clears = false)
    (open' : event.closes = false) : t.imposter.Restocked (t.after event).imposter := by
  rcases event with (event | _ | ⟨index, now, reply, latency⟩ | _)
  · cases event with
    | handle now request ask => cases none
    | clearRequests => cases kept
    | close => cases open'
    | edit command => exact ⟨_, rfl⟩
    | answer request => exact ⟨_, rfl⟩
    | clearStatistics id => exact ⟨_, rfl⟩
  · cases none
  · unfold after imposterAfter
    dsimp only
    split
    · exact .refl _
    · next p _ => exact Imposter.complete_restocked t.imposter now p.request p.waiting reply latency
  · exact .refl _

theorem closed_after (t : Traffic) (event : TrafficEvent) :
    (t.after event).imposter.closed = (t.imposter.closed || event.closes) := by
  cases call : event.call? with
  | some r =>
    rw [TrafficEvent.call_closes call, Bool.or_false]
    cases closed : t.imposter.closed with
    | true => rw [after_closed closed call, closed]
    | false =>
      obtain ⟨_, same⟩ := after_opened closed call
      rw [same]
      exact closed
  | none =>
    cases clears : event.clears with
    | true =>
      obtain rfl := TrafficEvent.eq_of_clears clears
      exact (Bool.or_false _).symm
    | false =>
      cases closes : event.closes with
      | true =>
        obtain rfl := TrafficEvent.eq_of_closes closes
        exact (Bool.or_true _).symm
      | false =>
        obtain ⟨_, same⟩ := after_other call clears closes
        rw [same]
        exact (Bool.or_false _).symm

/-- Nothing opens an imposter again. -/
theorem closed_run (t : Traffic) (events : List TrafficEvent) :
    (t.run events).imposter.closed = (t.imposter.closed || events.any TrafficEvent.closes) := by
  induction events generalizing t with
  | nil => exact (Bool.or_false _).symm
  | cons event events ih =>
    rw [List.any_cons, ← Bool.or_assoc, ← closed_after]
    exact ih (t.after event)

/-! ### The log of a whole run -/

/-- The log of an imposter stands where some events have brought it. -/
structure Logs (d : ImposterDefinition) (events : List TrafficEvent) (i : Imposter) : Prop where
  port : i.port = d.port
  setting : i.recordRequests = d.recordRequests
  closed : i.closed = events.any TrafficEvent.closes
  count : i.count = (TrafficEvent.acceptedSinceCleared events).length
  requests : i.requests =
    if d.recordRequests then TrafficEvent.acceptedSinceCleared events else []

variable {d : ImposterDefinition} {events : List TrafficEvent}

theorem Logs.after (h : Logs d events t.imposter) (event : TrafficEvent) :
    Logs d (events ++ [event]) (t.after event).imposter := by
  obtain ⟨port, setting, closed, count, requests⟩ := h
  have closedAfter : (t.after event).imposter.closed =
      (events ++ [event]).any TrafficEvent.closes := by
    rw [closed_after, closed, List.any_append, List.any_cons, List.any_nil, Bool.or_false]
  cases call : event.call? with
  | some r =>
    cases already : events.any TrafficEvent.closes with
    | true =>
      -- a refused call leaves the imposter as it is, and is not heard
      have same := TrafficEvent.heard_deaf already call
      have unheard : TrafficEvent.acceptedSinceCleared (events ++ [event]) =
          TrafficEvent.acceptedSinceCleared events := by
        rw [TrafficEvent.acceptedSinceCleared, same]
        rfl
      have refused := after_closed (closed.trans already) call
      rw [refused] at closedAfter ⊢
      exact ⟨port, setting, closedAfter, by rw [unheard, count], by rw [unheard, requests]⟩
    | false =>
      have grown := TrafficEvent.acceptedSinceCleared_call already call
      obtain ⟨_, counted⟩ := after_opened (closed.trans already) call
      rw [counted] at closedAfter ⊢
      refine ⟨port, setting, closedAfter, ?_, ?_⟩
      · rw [grown, List.length_append, ← count]
        rfl
      · simp only [Imposter.accept, grown, setting, requests]
        cases d.recordRequests <;> rfl
  | none =>
    cases clears : event.clears with
    | true =>
      obtain rfl := TrafficEvent.eq_of_clears clears
      refine ⟨port, setting, closedAfter, ?_, ?_⟩
      · rw [TrafficEvent.acceptedSinceCleared_clear]
        rfl
      · rw [TrafficEvent.acceptedSinceCleared_clear, ite_self]
        rfl
    | false =>
      have kept : TrafficEvent.acceptedSinceCleared (events ++ [event]) =
          TrafficEvent.acceptedSinceCleared events :=
        TrafficEvent.acceptedSinceCleared_other call clears
      cases closes : event.closes with
      | true =>
        obtain rfl := TrafficEvent.eq_of_closes closes
        exact ⟨port, setting, closedAfter, by rw [kept]; exact count, by rw [kept]; exact requests⟩
      | false =>
        obtain ⟨_, same⟩ := after_other call clears closes
        rw [same] at closedAfter ⊢
        exact ⟨port, setting, closedAfter, by rw [kept]; exact count, by rw [kept]; exact requests⟩

theorem logs_start {c : Capabilities} {i : Imposter} (built : Imposter.build c d = .ok i) :
    Logs d [] i := by
  unfold Imposter.build at built
  split at built
  · cases built
  · cases built
    exact ⟨rfl, rfl, rfl, rfl, (ite_self _).symm⟩

theorem logs_run {c : Capabilities} {i : Imposter} (built : Imposter.build c d = .ok i)
    (events : List TrafficEvent) : Logs d events ((start i).run events).imposter := by
  induction events using List.reverseRecOn with
  | nil => exact logs_start built
  | append_singleton events event ih =>
    rw [run_append]
    exact ih.after event

/-- Whatever happens to an imposter, and however many requests wait meanwhile: its count is the number
    of requests that were handed in before the first close and since the requests were last cleared,
    whatever they came to, and its log is these requests in order, if requests are kept, and else is
    empty.  Once it has been closed, a request is refused with the port of the imposter, and nothing
    changes: the imposter stays as it is, nothing is measured, and no origin is asked. -/
theorem request_log {c : Capabilities} {i : Imposter} (built : Imposter.build c d = .ok i)
    (events : List TrafficEvent) :
    let t := (start i).run events
    let accepted := TrafficEvent.acceptedSinceCleared events
    t.imposter.count = accepted.length ∧
    t.imposter.requests = (if d.recordRequests then accepted else []) ∧
    (.whole .close ∈ events → ∀ now request,
      t.imposter.begin now request =
          (.finished (.error (.imposter (.closed d.port))), t.imposter, []) ∧
        ∀ ask, t.imposter.handle now request ask =
          (.error (.imposter (.closed d.port)), t.imposter, [])) := by
  intro t accepted
  have logs : Logs d events t.imposter := logs_run built events
  refine ⟨logs.count, logs.requests, ?_⟩
  intro close now request
  have closed : t.imposter.closed = true := by
    rw [logs.closed, List.any_eq_true]
    exact ⟨.whole .close, close, rfl⟩
  constructor
  · rw [Imposter.begin_closed closed, logs.port]
  · intro ask
    rw [Imposter.handle_closed closed, logs.port]

/-- An imposter that keeps requests, with one stub, a proxy that records once. -/
def logging : Imposter := { Imposter.proxying with recordRequests := true }

/-- A request waits while the imposter is closed, another one comes, and the first is replied to. -/
def closedWhileWaiting : List TrafficEvent :=
  [.arrive ⟨0, 0⟩ [], .whole .close, .arrive ⟨1, 0⟩ [], .reply 0 ⟨2, 0⟩ (.response .plain) ⟨0⟩]

theorem closedWhileWaiting_logged :
    let t := (start logging).run closedWhileWaiting
    t.imposter.count = 1 ∧ t.imposter.requests = [⟨⟨0, 0⟩, []⟩] ∧
      ∀ now request ask, t.imposter.handle now request ask =
        (.error (.imposter (.closed 4545)), t.imposter, []) := by
  have built : Imposter.build Imposter.brokerOnly ⟨4545, "http", none, true, false, none,
      [Imposter.proxyStub.definition], none, []⟩ = .ok logging := rfl
  obtain ⟨count, requests, refuses⟩ := request_log built closedWhileWaiting
  refine ⟨count.trans rfl, requests.trans rfl, ?_⟩
  intro now request ask
  exact (refuses (by simp [closedWhileWaiting]) now request).2 ask

end Traffic

end VirtualService
