/-
  VirtualService/Proofs/History.lean
  ==================================
  **What can happen to an imposter.**

  An imposter that was built from a definition handles requests, is edited, asked for
  its stubs, cleared and closed, in any order (`Imposter.Reachable`).  All of this is
  to its store a history of its own (`Imposter.run_leads`), so what is true of every
  store that has come about from an empty one is true of the store of every imposter.
-/
import VirtualService.Proofs.Imposter

namespace VirtualService

/-! ### Histories of stores -/

namespace Store

/-- One store comes about from another. -/
def Leads (s t : Store) : Prop := ∃ events, t = s.run events

variable {s t u : Store}

theorem Leads.refl (s : Store) : s.Leads s := ⟨[], rfl⟩

theorem Leads.trans (st : s.Leads t) (tu : t.Leads u) : s.Leads u := by
  obtain ⟨first, rfl⟩ := st
  obtain ⟨second, rfl⟩ := tu
  exact ⟨first ++ second, by rw [run, run, run, List.foldl_append]⟩

theorem leads_after (s : Store) (event : StoreEvent) : s.Leads (s.after event) := ⟨[event], rfl⟩

theorem Leads.sound (st : s.Leads t) (h : s.Sound) : t.Sound := by
  obtain ⟨events, rfl⟩ := st
  exact h.run events

theorem Leads.later (st : s.Leads t) : s.Later t := by
  obtain ⟨events, rfl⟩ := st
  exact run_later s events

end Store

/-! ### Handling -/

namespace Imposter

variable {i : Imposter}

theorem remember_leads (i : Imposter) (stub : Stub) (now : Timestamp) (request : Request)
    (response : LiteralResponse) :
    i.store.Leads (i.remember stub now request response).store := by
  unfold remember
  split
  · exact Store.leads_after i.store (.remember stub.cell ⟨now, request, response⟩)
  · exact .refl _

theorem edit_leads (i : Imposter) (command : StoreCommand) :
    i.store.Leads (i.edit command).2.store := Store.leads_after i.store (.edit command)

theorem editAll_leads (i : Imposter) (commands : List StoreCommand) :
    i.store.Leads (i.editAll commands).store := by
  induction commands generalizing i with
  | nil => exact .refl _
  | cons command commands ih => exact (edit_leads i command).trans (ih (i.edit command).2)

theorem asked_leads (i : Imposter) (now : Timestamp) (request : Request) :
    i.store.Leads (i.asked now request).store := Store.leads_after i.store (.answer request)

theorem begin_leads (i : Imposter) (now : Timestamp) (request : Request) :
    i.store.Leads (i.begin now request).2.1.store := by
  cases closed : i.closed with
  | true =>
    rw [begin_closed closed]
    exact .refl _
  | false =>
    have asked := asked_leads i now request
    rw [begin_opened closed]
    split
    · exact asked
    · next selected _ =>
      split
      · next response _ _ =>
        exact asked.trans (remember_leads (i.asked now request) selected.stub now request response)
      · split
        · exact asked
        · exact asked

theorem recordAnswer_leads (i : Imposter) (request : Request) (w : Waiting)
    (response : LiteralResponse) :
    i.store.Leads (i.recordAnswer request w response).2.1.store := by
  unfold recordAnswer
  split
  · exact .refl _
  · next command _ => exact edit_leads i command

theorem complete_leads (i : Imposter) (now : Timestamp) (request : Request) (w : Waiting)
    (reply : ProxyReply) (latency : Double) :
    i.store.Leads (i.complete now request w reply latency).2.1.store := by
  unfold complete
  dsimp only
  split
  · exact .refl _
  · next response _ =>
    exact (recordAnswer_leads i request w response).trans (remember_leads _ w.stub now request response)

theorem handle_leads (i : Imposter) (now : Timestamp) (request : Request)
    (ask : ProxyTarget → Exchange) : i.store.Leads (i.handle now request ask).2.1.store := by
  have begun := begin_leads i now request
  unfold handle
  split
  · next started =>
    rw [started] at begun
    exact begun
  · next w i' measured started =>
    rw [started] at begun
    exact begun.trans ((editAll_leads i' _).trans (complete_leads _ now request w _ _))

end Imposter

/-! ### Events -/

/-- What can happen to an imposter. -/
inductive ImposterEvent where
  | handle (now : Timestamp) (request : Request) (ask : ProxyTarget → Exchange)
  | edit (command : StoreCommand)
  /-- The stubs are asked without the imposter. -/
  | answer (request : Request)
  | clearStatistics (id : Nat)
  | clearRequests
  | close

namespace Imposter

/-- The imposter after an event. -/
def after (i : Imposter) : ImposterEvent → Imposter
  | .handle now request ask => (i.handle now request ask).2.1
  | .edit command => (i.edit command).2
  | .answer request => { i with store := (i.store.resolve request).2 }
  | .clearStatistics id => { i with store := (i.store.clearStatistics id).2 }
  | .clearRequests => i.clearRequests
  | .close => i.close

def run (i : Imposter) (events : List ImposterEvent) : Imposter := events.foldl after i

theorem after_leads (i : Imposter) (event : ImposterEvent) :
    i.store.Leads (i.after event).store := by
  cases event with
  | handle now request ask => exact handle_leads i now request ask
  | edit command => exact edit_leads i command
  | answer request => exact Store.leads_after i.store (.answer request)
  | clearStatistics id => exact Store.leads_after i.store (.forget id)
  | clearRequests => exact .refl _
  | close => exact .refl _

theorem run_leads (i : Imposter) (events : List ImposterEvent) :
    i.store.Leads (i.run events).store := by
  induction events generalizing i with
  | nil => exact .refl _
  | cons event events ih => exact (after_leads i event).trans (ih (i.after event))

theorem build_leads {c : Capabilities} {d : ImposterDefinition} {i : Imposter}
    (built : build c d = .ok i) : (Store.empty c.scripts).Leads i.store := by
  have applied := Store.leads_after (Store.empty c.scripts) (.edit (.replaceAll d.stubs))
  unfold build at built
  rw [Store.after] at applied
  split at built
  · cases built
  · next made =>
    rw [made] at applied
    cases built
    exact applied

/-- An imposter that was built with what is at its disposal, and to which anything has happened. -/
def Reachable (c : Capabilities) (i : Imposter) : Prop :=
  ∃ d built events, build c d = .ok built ∧ i = run built events

variable {c : Capabilities}

theorem Reachable.leads (h : Reachable c i) : (Store.empty c.scripts).Leads i.store := by
  obtain ⟨d, built, events, made, rfl⟩ := h
  exact (build_leads made).trans (run_leads built events)

theorem Reachable.sound (h : Reachable c i) : i.store.Sound :=
  h.leads.sound (Store.sound_empty c.scripts)

end Imposter

end VirtualService
