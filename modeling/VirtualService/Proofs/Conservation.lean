/-
  VirtualService/Proofs/Conservation.lean
  =======================================
  **Measurements balance.**

  A request that has come to its end is measured as one resolution, and the calls of
  origins and the recordings on the way to it are measured with it.  What is measured
  for one end of a request balances (`Metrics.Balanced`), balances add up, and so
  all that is measured balances, for any number of imposters that share the counters.
-/
import Mathlib.Data.List.Flatten
import VirtualService.Proofs.RequestLog

namespace VirtualService

/-! ### Counters -/

namespace Metrics

section Counters

variable (m n : Metrics) (measured : Measurement) (outcome mode result change : String)

@[simp] theorem resolutions_nil : resolutions [] outcome = 0 := rfl

@[simp] theorem resolutions_cons :
    resolutions (measured :: m) outcome = m.resolutions outcome +
      match measured with
      | .resolution o => if o = outcome then 1 else 0
      | .proxyCall _ _ _ | .recording _ _ => 0 := by
  cases measured <;> simp [resolutions, List.countP_cons]

@[simp] theorem resolutions_append :
    resolutions (m ++ n) outcome = m.resolutions outcome + n.resolutions outcome :=
  List.countP_append

@[simp] theorem proxyCalls_nil : proxyCalls [] mode result = 0 := rfl

@[simp] theorem proxyCalls_cons :
    proxyCalls (measured :: m) mode result = m.proxyCalls mode result +
      match measured with
      | .proxyCall o r _ => if o = mode ∧ r = result then 1 else 0
      | .resolution _ | .recording _ _ => 0 := by
  cases measured <;> simp [proxyCalls, List.countP_cons]

@[simp] theorem proxyCalls_append :
    proxyCalls (m ++ n) mode result = m.proxyCalls mode result + n.proxyCalls mode result :=
  List.countP_append

@[simp] theorem recordings_nil : recordings [] mode change = 0 := rfl

@[simp] theorem recordings_cons :
    recordings (measured :: m) mode change = m.recordings mode change +
      match measured with
      | .recording o c => if o = mode ∧ c = change then 1 else 0
      | .resolution _ | .proxyCall _ _ _ => 0 := by
  cases measured <;> simp [recordings, List.countP_cons]

@[simp] theorem recordings_append :
    recordings (m ++ n) mode change = m.recordings mode change + n.recordings mode change :=
  List.countP_append

@[simp] theorem latencies_nil : latencies [] mode = [] := rfl

@[simp] theorem latencies_cons :
    latencies (measured :: m) mode =
      (match measured with
        | .proxyCall o _ latency => if o = mode then [latency] else []
        | .resolution _ | .recording _ _ => []) ++ m.latencies mode := by
  cases measured with
  | proxyCall o r latency => by_cases same : o = mode <;> simp [latencies, same]
  | resolution o => rfl
  | recording o c => rfl

@[simp] theorem latencies_append : latencies (m ++ n) mode = m.latencies mode ++ n.latencies mode :=
  List.filterMap_append

end Counters

end Metrics

/-- The end of a request that was accepted. -/
def acceptedEnd : Except HandleError Resolution → Bool
  | .ok _ => true
  | .error (.resolve _) => true
  | .error (.imposter _) => false

/-- The end of a request that was to be forwarded by an imposter that reaches no origins. -/
def unforwarded : Except HandleError Resolution → Bool
  | .error (.resolve .noProxyBroker) => true
  | .error (.resolve (.upstreamUnavailable _ _)) | .error (.imposter _) | .ok _ => false

namespace Metrics

/-- Measurements balance, with the ends of the requests for which they were made. -/
structure Balanced (m : Metrics) (ends : List (Except HandleError Resolution)) : Prop where
  resolved : m.resolutions "matched" + m.resolutions "proxied" + m.resolutions "default" +
    m.resolutions "error" = ends.countP acceptedEnd
  proxied : m.resolutions "proxied" =
    (ProxyMode.all.map fun mode => m.proxyCalls mode.key "ok").sum
  failed : m.resolutions "error" =
    (ProxyMode.all.map fun mode =>
      m.proxyCalls mode.key "unavailable" + m.proxyCalls mode.key "timeout").sum +
    ends.countP unforwarded
  timed : ∀ mode : ProxyMode, (m.latencies mode.key).length =
    m.proxyCalls mode.key "ok" + m.proxyCalls mode.key "unavailable" +
      m.proxyCalls mode.key "timeout"
  recorded : ∀ mode : ProxyMode, mode ≠ .transparent →
    m.recordings mode.key "inserted" + m.recordings mode.key "appended" +
      m.recordings mode.key "failed" = m.proxyCalls mode.key "ok"
  unrecorded : ∀ change, m.recordings ProxyMode.transparent.key change = 0
  unappended : m.recordings ProxyMode.once.key "appended" = 0

variable {m n : Metrics} {ends more : List (Except HandleError Resolution)}

theorem Balanced.nil : Balanced [] [] := by
  constructor <;> intros <;> rfl

theorem Balanced.append (h : m.Balanced ends) (h' : n.Balanced more) :
    Balanced (m ++ n) (ends ++ more) := by
  constructor
  · have := h.resolved
    have := h'.resolved
    simp only [resolutions_append, List.countP_append]
    omega
  · rw [resolutions_append, h.proxied, h'.proxied]
    simp [ProxyMode.all]
    omega
  · rw [resolutions_append, h.failed, h'.failed]
    simp [ProxyMode.all]
    omega
  · intro mode
    rw [latencies_append, List.length_append, h.timed, h'.timed]
    simp only [proxyCalls_append]
    omega
  · intro mode records
    have := h.recorded mode records
    have := h'.recorded mode records
    simp only [recordings_append, proxyCalls_append]
    omega
  · intro change
    rw [recordings_append, h.unrecorded, h'.unrecorded]
  · rw [recordings_append, h.unappended, h'.unappended]

/-- The order of the measurements makes no difference. -/
theorem Balanced.perm (h : m.Balanced ends) (same : n.Perm m) : n.Balanced ends := by
  have resolutions (outcome : String) : n.resolutions outcome = m.resolutions outcome :=
    same.countP_eq _
  have proxyCalls (mode result : String) : n.proxyCalls mode result = m.proxyCalls mode result :=
    same.countP_eq _
  have recordings (mode change : String) : n.recordings mode change = m.recordings mode change :=
    same.countP_eq _
  have latencies (mode : String) : (n.latencies mode).length = (m.latencies mode).length :=
    (same.filterMap _).length_eq
  constructor
  · simp only [resolutions, h.resolved]
  · simp only [resolutions, proxyCalls, h.proxied]
  · simp only [resolutions, proxyCalls, h.failed]
  · intro mode
    simp only [latencies, proxyCalls, h.timed]
  · intro mode records
    simp only [recordings, proxyCalls, h.recorded mode records]
  · intro change
    simp only [recordings, h.unrecorded]
  · simp only [recordings, h.unappended]

end Metrics

/-! ### One end of a request -/

namespace Metrics

variable {mode : ProxyMode} {latency : Double}

theorem balanced_failure {result target reason : String}
    (failure : result = "unavailable" ∨ result = "timeout") :
    Balanced [.proxyCall mode.key result latency, .resolution "error"]
      [.error (.resolve (.upstreamUnavailable target reason))] := by
  constructor
  · simp [acceptedEnd]
  · rcases failure with rfl | rfl <;> simp [ProxyMode.all]
  · rcases failure with rfl | rfl <;> cases mode <;> simp [ProxyMode.all, ProxyMode.key, unforwarded]
  · intro other
    rcases failure with rfl | rfl <;> by_cases same : mode.key = other.key <;> simp [same]
  · intro other _
    rcases failure with rfl | rfl <;> simp
  · simp
  · simp

theorem balanced_transparent (resolution : Resolution) :
    Balanced [.proxyCall ProxyMode.transparent.key "ok" latency, .resolution "proxied"]
      [.ok resolution] := by
  constructor
  · simp [acceptedEnd]
  · simp [ProxyMode.all, ProxyMode.key]
  · simp [ProxyMode.all, unforwarded]
  · intro other
    cases other <;> simp [ProxyMode.key]
  · intro other records
    cases other <;> simp [ProxyMode.key] at records ⊢
  · simp
  · simp

theorem balanced_recording {change : String} (records : mode ≠ .transparent)
    (known : change = "inserted" ∨ change = "failed" ∨ change = "appended" ∧ mode = .always)
    (resolution : Resolution) :
    Balanced [.proxyCall mode.key "ok" latency, .recording mode.key change, .resolution "proxied"]
      [.ok resolution] := by
  constructor
  · simp [acceptedEnd]
  · cases mode <;> simp [ProxyMode.all, ProxyMode.key]
  · simp [ProxyMode.all, unforwarded]
  · intro other
    by_cases same : mode.key = other.key <;> simp [same]
  · intro other _
    rcases known with rfl | rfl | ⟨rfl, -⟩ <;> simp
  · intro other
    cases mode <;> simp [ProxyMode.key] at records ⊢
  · rcases known with rfl | rfl | ⟨rfl, rfl⟩ <;> simp [ProxyMode.key]

end Metrics

namespace Imposter

variable {i j : Imposter} {now : Timestamp} {request : Request} {measured : Metrics}

theorem Begins.balanced {result : Except HandleError Resolution}
    (begins : i.Begins now request (.finished result) j measured) : measured.Balanced [result] := by
  cases begins with
  | refused _ => constructor <;> intros <;> rfl
  | missed _ _ => constructor <;> simp [ProxyMode.all, acceptedEnd, unforwarded]
  | served _ _ _ _ _ _ => constructor <;> simp [ProxyMode.all, acceptedEnd, unforwarded]
  | unbrokered _ _ _ _ _ _ => constructor <;> simp [ProxyMode.all, acceptedEnd, unforwarded]

theorem Begins.unmeasured {w : Waiting} (begins : i.Begins now request (.waiting w) j measured) :
    measured = [] := by
  cases begins
  rfl

/-- A recording before a stub never extends another. -/
theorem recordingLabel_record (s : Store) (before : Nat) (d : StubDefinition) :
    recordingLabel (s.apply (.record before d)).1 = "inserted" ∨
      recordingLabel (s.apply (.record before d)).1 = "failed" := by
  rw [Store.apply]
  split
  · exact .inr rfl
  · split
    · exact .inr rfl
    · exact .inl rfl

theorem recordingLabel_cases (result : Except StoreError StoreChange) :
    recordingLabel result = "inserted" ∨ recordingLabel result = "failed" ∨
      recordingLabel result = "appended" := by
  rcases result with _ | (_ | _ | _ | _ | _) <;> simp [recordingLabel]

/-- A recording is measured once, unless the proxy records nothing. -/
theorem recordAnswer_measured (i : Imposter) (request : Request) (w : Waiting)
    (response : LiteralResponse) :
    let measured := (i.recordAnswer request w response).2.2
    w.target.mode = .transparent ∧ measured = [] ∨
      ∃ change, w.target.mode ≠ .transparent ∧
        (change = "inserted" ∨ change = "failed" ∨ change = "appended" ∧ w.target.mode = .always) ∧
        measured = [.recording w.target.mode.key change] := by
  unfold recordAnswer recordingCommand
  cases mode : w.target.mode with
  | transparent => exact .inl ⟨rfl, rfl⟩
  | once =>
    right
    refine ⟨_, by simp, ?_, rfl⟩
    exact (recordingLabel_record i.store _ _).imp_right .inl
  | always =>
    right
    refine ⟨_, by simp, ?_, rfl⟩
    exact (recordingLabel_cases _).imp_right (.imp_right fun appended => ⟨appended, rfl⟩)

theorem Completes.balanced {w : Waiting} {reply : ProxyReply} {latency : Double}
    {result : Except HandleError Resolution}
    (completes : i.Completes now request w reply latency result j measured) :
    measured.Balanced [result] := by
  cases completes with
  | failed target reason failure => exact Metrics.balanced_failure failure
  | answered response replied =>
    rcases recordAnswer_measured i request w response with
      ⟨mode, measured⟩ | ⟨change, records, known, measured⟩
    · rw [mode, measured]
      exact Metrics.balanced_transparent _
    · rw [measured]
      exact Metrics.balanced_recording records known _

/-! ### Who comes to an end -/

theorem Begins.accepted {result : Except HandleError Resolution}
    (begins : i.Begins now request (.finished result) j measured) :
    acceptedEnd result = !i.closed := by
  cases begins with
  | refused closed =>
    rw [closed]
    rfl
  | missed opened _ =>
    rw [opened]
    rfl
  | served opened _ _ _ _ _ =>
    rw [opened]
    rfl
  | unbrokered opened _ _ _ _ _ =>
    rw [opened]
    rfl

theorem Begins.opened {w : Waiting} (begins : i.Begins now request (.waiting w) j measured) :
    i.closed = false := by
  cases begins
  assumption

theorem Completes.accepted {w : Waiting} {reply : ProxyReply} {latency : Double}
    {result : Except HandleError Resolution}
    (completes : i.Completes now request w reply latency result j measured) :
    acceptedEnd result = true := by
  cases completes with
  | failed _ _ _ => rfl
  | answered _ _ => rfl

theorem handle_accepted (i : Imposter) (now : Timestamp) (request : Request)
    (ask : ProxyTarget → Exchange) : acceptedEnd (i.handle now request ask).1 = !i.closed := by
  have begins := begin_begins i now request
  cases started : (i.begin now request).1 with
  | finished result =>
    rw [started] at begins
    rw [handle_finished started]
    exact begins.accepted
  | waiting w =>
    rw [started] at begins
    rw [handle_waits started, begins.opened]
    exact (complete_completes _ now request w _ _).accepted

theorem finds_results (i : Imposter) (request : Request) :
    (i.finds request).filterMap Happening.result? = [] := by
  simp [finds, Happening.result?]

/-- Nothing comes to an end, and nothing is measured, but a request that is handled. -/
theorem other_ends (i : Imposter) {event : ImposterEvent}
    (other : (TrafficEvent.whole event).call? = none) :
    (i.happenings event).filterMap Happening.result? = [] ∧ i.measures event = [] := by
  cases event with
  | handle now request ask => cases other
  | answer request => exact ⟨finds_results i request, rfl⟩
  | clearStatistics id =>
    refine ⟨?_, rfl⟩
    change (if (i.store.clearStatistics id).1 then [Happening.forgot id] else []).filterMap _ = []
    split <;> rfl
  | edit command => exact ⟨rfl, rfl⟩
  | clearRequests => exact ⟨rfl, rfl⟩
  | close => exact ⟨rfl, rfl⟩

end Imposter

/-! ### Whole runs -/

namespace Traffic

/-- How the requests that have come to their end have done so, in that order. -/
def ends (t : Traffic) : List (Except HandleError Resolution) :=
  t.journal.filterMap Happening.result?

theorem ends_after (t : Traffic) (event : TrafficEvent) :
    (t.after event).ends = t.ends ++ (t.happenings event).filterMap Happening.result? :=
  List.filterMap_append

theorem results_of_finds (t : Traffic) (request : Request) :
    (if t.imposter.closed then [] else t.imposter.finds request).filterMap Happening.result? = [] := by
  split
  · rfl
  · exact Imposter.finds_results t.imposter request

theorem balanced_after {t : Traffic} {event : TrafficEvent} (part : event.Part)
    (h : t.measured.Balanced t.ends) : (t.after event).measured.Balanced (t.after event).ends := by
  cases event with
  | whole event =>
    have other : (TrafficEvent.whole event).call? = none := by
      cases event with
      | handle now request ask => exact part.elim
      | _ => rfl
    have nothing := Imposter.other_ends t.imposter other
    have ends : (t.after (.whole event)).ends = t.ends := by
      rw [ends_after]
      simp [happenings, nothing.1]
    have measured : (t.after (.whole event)).measured = t.measured := by
      simp [after, measures, nothing.2]
    rw [ends, measured]
    exact h
  | arrive now request =>
    -- to be recognised is no end; the request has one here only if it does not wait
    have unended := results_of_finds t request
    apply after_arrive (P := fun t => t.measured.Balanced t.ends)
    · intro result i measured begins
      have balanced := h.append begins.balanced
      simpa [ends, List.filterMap_append, unended, Happening.result?] using balanced
    · intro w i measured begins
      rw [begins.unmeasured]
      simpa [ends, List.filterMap_append, unended] using h
  | reply index now reply latency =>
    apply after_reply (P := fun t => t.measured.Balanced t.ends)
    · exact h
    · intro p _ _ result i measured completes
      have balanced := h.append completes.balanced
      simpa [ends, List.filterMap_append, Happening.result?] using balanced
  | exported options =>
    simpa [after, measures, ends, happenings] using h

theorem balanced_run (i : Imposter) (events : List TrafficEvent) :
    ((start i).run events).measured.Balanced ((start i).run events).ends :=
  run_keeps (P := fun t => t.measured.Balanced t.ends) (fun _ _ part h => balanced_after part h)
    Metrics.Balanced.nil events

/-- How many requests were accepted, whether they have come to an end or still wait. -/
def admitted (t : Traffic) : Nat := t.ends.countP acceptedEnd + t.pending.length

theorem admitted_ended {t t' : Traffic} {result : Except HandleError Resolution} {closed : Bool}
    (ended : t'.ends = t.ends ++ [result]) (same : t'.pending = t.pending)
    (accepted : acceptedEnd result = !closed) :
    t'.admitted = t.admitted + if closed then 0 else 1 := by
  rw [admitted, ended, same, List.countP_append, List.countP_singleton, accepted]
  cases closed with
  | true => rfl
  | false => exact Nat.add_right_comm ..

theorem admitted_call {t : Traffic} {event : TrafficEvent} {call : RecordedRequest}
    (made : event.call? = some call) :
    (t.after event).admitted = t.admitted + if t.imposter.closed then 0 else 1 := by
  rcases event with (event | ⟨now, request⟩ | _ | _)
  · cases event with
    | handle now request ask =>
      have ended : (t.after (.whole (.handle now request ask))).ends =
          t.ends ++ [(t.imposter.handle now request ask).1] := by
        rw [ends_after]
        simp [happenings, Imposter.happenings, results_of_finds, Happening.result?]
      exact admitted_ended ended rfl (Imposter.handle_accepted t.imposter now request ask)
    | _ => cases made
  · apply after_arrive (P := fun t' => t'.admitted = t.admitted + if t.imposter.closed then 0 else 1)
    · intro result i measured begins
      refine admitted_ended ?_ rfl begins.accepted
      simp [ends, List.filterMap_append, results_of_finds, Happening.result?]
    · intro w i measured begins
      simp [admitted, ends, List.filterMap_append, begins.opened, Imposter.finds_results]
      omega
  all_goals cases made

theorem admitted_other {t : Traffic} {event : TrafficEvent} (other : event.call? = none) :
    (t.after event).admitted = t.admitted := by
  rcases event with (event | _ | ⟨index, now, reply, latency⟩ | _)
  · have nothing := (Imposter.other_ends t.imposter other).1
    rw [admitted, ends_after]
    simp [happenings, nothing, admitted, after, pendingAfter]
  · cases other
  · apply after_reply (P := fun t' => t'.admitted = t.admitted)
    · rfl
    · intro p _ there result i measured completes
      have waited : index < t.pending.length := (List.getElem?_eq_some_iff.mp there).1
      simp [admitted, ends, List.filterMap_append, Happening.result?, completes.accepted,
        List.length_eraseIdx, waited]
      omega
  · simp [admitted, ends, after, pendingAfter, happenings]

/-- Every call that is accepted comes to its end or waits. -/
theorem admitted_run (i : Imposter) (events : List TrafficEvent) :
    ((start i).run events).admitted =
      (if i.closed then [] else TrafficEvent.accepted events).length := by
  induction events using List.reverseRecOn with
  | nil => simp [run, start, admitted, ends, TrafficEvent.accepted, TrafficEvent.heard]
  | append_singleton events event ih =>
    have closed : ((start i).run events).imposter.closed =
        (i.closed || events.any TrafficEvent.closes) := closed_run (start i) events
    rw [run_append]
    change (after _ event).admitted = _
    cases call : event.call? with
    | none => rw [admitted_other call, ih, TrafficEvent.accepted_other call]
    | some r =>
      rw [admitted_call call, closed, ih]
      cases shut : i.closed with
      | true => rfl
      | false =>
        cases already : events.any TrafficEvent.closes with
        | true => simp [TrafficEvent.accepted, TrafficEvent.heard_deaf already call]
        | false => simp [TrafficEvent.accepted_call already call]

end Traffic

/-! ### Imposters that share their counters -/

/-- An imposter, as it is when the counters are reset, and what happens to it from then on. -/
structure Service where
  imposter : Imposter
  events : List TrafficEvent

namespace Service

def traffic (s : Service) : Traffic := (Traffic.start s.imposter).run s.events

/-- The calls that are accepted: those before the first close. -/
def accepted (s : Service) : List RecordedRequest :=
  if s.imposter.closed then [] else TrafficEvent.accepted s.events

theorem balanced_all (services : List Service) :
    Metrics.Balanced (services.flatMap fun s => s.traffic.measured)
      (services.flatMap fun s => s.traffic.ends) := by
  induction services with
  | nil => exact .nil
  | cons s services ih => exact (Traffic.balanced_run s.imposter s.events).append ih

theorem admitted_all (services : List Service) :
    (services.flatMap fun s => s.traffic.ends).countP acceptedEnd +
        (services.flatMap fun s => s.traffic.pending).length =
      (services.flatMap accepted).length := by
  induction services with
  | nil => rfl
  | cons s services ih =>
    have one : s.traffic.ends.countP acceptedEnd + s.traffic.pending.length = s.accepted.length :=
      Traffic.admitted_run s.imposter s.events
    simp only [List.flatMap_cons, List.countP_append, List.length_append]
    omega

/-- Several imposters share their counters, and what is measured for one comes between what is
    measured for others in any order.  From a reset on, every accepted call that no longer waits is
    counted once, as matched, proxied, default or error.  The proxied ones are the calls of origins
    that went well, and the errors are those that did not, with the requests that no origin could be
    asked for.  Every call of an origin has its duration measured; every one that went well is recorded
    once, as inserted, appended or failed, unless its mode records nothing; and what is recorded once is
    never appended. -/
theorem metrics_conserved (services : List Service) {measured : Metrics}
    (shared : measured.Perm (services.flatMap fun s => s.traffic.measured)) :
    measured.resolutions "matched" + measured.resolutions "proxied" +
          measured.resolutions "default" + measured.resolutions "error" +
        (services.flatMap fun s => s.traffic.pending).length =
      (services.flatMap accepted).length ∧
    measured.resolutions "proxied" =
      (ProxyMode.all.map fun mode => measured.proxyCalls mode.key "ok").sum ∧
    measured.resolutions "error" =
      (ProxyMode.all.map fun mode =>
        measured.proxyCalls mode.key "unavailable" + measured.proxyCalls mode.key "timeout").sum +
      (services.flatMap fun s => s.traffic.ends).countP unforwarded ∧
    (∀ mode : ProxyMode, (measured.latencies mode.key).length =
      measured.proxyCalls mode.key "ok" + measured.proxyCalls mode.key "unavailable" +
        measured.proxyCalls mode.key "timeout") ∧
    (∀ mode : ProxyMode, mode ≠ .transparent →
      measured.recordings mode.key "inserted" + measured.recordings mode.key "appended" +
          measured.recordings mode.key "failed" =
        measured.proxyCalls mode.key "ok") ∧
    (∀ change, measured.recordings "proxyTransparent" change = 0) ∧
    measured.recordings "proxyOnce" "appended" = 0 := by
  have balanced := (balanced_all services).perm shared
  refine ⟨?_, balanced.proxied, balanced.failed, balanced.timed, balanced.recorded,
    balanced.unrecorded, balanced.unappended⟩
  rw [balanced.resolved]
  exact admitted_all services

/-- One imposter with two requests for a proxy, of which one still waits, and one that has a proxy
    and reaches no origins. -/
def someWait : List Service :=
  [⟨.proxying, [.arrive ⟨0, 0⟩ [], .arrive ⟨1, 0⟩ [], .reply 1 ⟨2, 0⟩ (.response .plain) ⟨7⟩]⟩,
    ⟨{ Imposter.proxying with capabilities := ⟨false, false, 1000⟩ }, [.arrive ⟨0, 0⟩ []]⟩]

theorem someWait_conserved :
    let measured : Metrics :=
      [.proxyCall "proxyOnce" "ok" ⟨7⟩, .resolution "error", .recording "proxyOnce" "inserted",
        .resolution "proxied"]
    measured.resolutions "matched" + measured.resolutions "proxied" +
        measured.resolutions "default" + measured.resolutions "error" + 1 = 3 ∧
      measured.resolutions "proxied" =
        (ProxyMode.all.map fun mode => measured.proxyCalls mode.key "ok").sum ∧
      measured.recordings "proxyOnce" "inserted" + measured.recordings "proxyOnce" "appended" +
        measured.recordings "proxyOnce" "failed" = measured.proxyCalls "proxyOnce" "ok" := by
  intro measured
  have each : (someWait.flatMap fun s => s.traffic.measured) =
      [.proxyCall "proxyOnce" "ok" ⟨7⟩, .recording "proxyOnce" "inserted", .resolution "proxied",
        .resolution "error"] := rfl
  have shared : measured.Perm (someWait.flatMap fun s => s.traffic.measured) := by
    rw [each]
    exact ((@List.perm_middle _ _ [_, _] []).symm.cons _)
  obtain ⟨accepted, proxied, -, -, recorded, -⟩ := metrics_conserved someWait shared
  exact ⟨accepted, proxied, recorded .once (by simp)⟩

end Service

end VirtualService
