/-
  VirtualService/Proofs/WithoutProxies.lean
  =========================================
  **What an export without proxies still does.**

  An export without proxies is the export for replay of an imposter that has lost its
  proxies (`Imposter.withoutProxies`): the stubs that have other responses stay, in
  order, with their identities and their states.  A request that is answered by a stub
  without proxies, or by none, meets the same stub there: nothing that stood before
  this stub recognises the request, so it does not matter which of it is left.  So the
  two go on in step over such requests (`Admits.handle`), and what is built from the
  export is like the second.
-/
import VirtualService.Proofs.FullExport
import VirtualService.Proofs.Readings
import VirtualService.Proofs.Reimport

namespace VirtualService

/-! ### Lists with items left out -/

section Kept

variable {α β : Type} {p q : α → Bool}

/-- The first item that passes is still the first where only others are left out. -/
theorem find?_filter_of_kept {items : List α}
    (kept : ∀ a, items.find? p = some a → q a = true) :
    (items.filter q).find? p = items.find? p := by
  induction items with
  | nil => rfl
  | cons a rest ih =>
    rw [List.find?_cons, List.filter_cons]
    cases passes : p a with
    | true =>
      have there : q a = true := kept a (by rw [List.find?_cons, passes])
      rw [there, if_pos rfl, List.find?_cons, passes]
    | false =>
      have rest := ih fun b found => kept b (by rw [List.find?_cons, passes]; exact found)
      split
      · rw [List.find?_cons, passes]
        exact rest
      · exact rest

theorem filterMap_ite (f : α → β) (items : List α) :
    items.filterMap (fun a => if q a then some (f a) else none) = (items.filter q).map f := by
  induction items with
  | nil => rfl
  | cons a rest ih => cases passes : q a <;> simp [passes, ih]

end Kept

/-! ### Stubs -/

/-- The definition with its other responses. -/
def StubDefinition.withoutProxies (d : StubDefinition) : StubDefinition :=
  { d with responses := d.responses.filter fun r => !r.isProxy }

namespace Stub

def withoutProxies (s : Stub) : Stub := { s with definition := s.definition.withoutProxies }

/-- Something is left of the stub. -/
def remains (s : Stub) : Bool := !s.definition.withoutProxies.responses.isEmpty

/-- There are responses, and none is a proxy. -/
def Canned (s : Stub) : Prop := s.definition.responses ≠ [] ∧ s.definition.hasProxy = false

instance (s : Stub) : Decidable s.Canned := inferInstanceAs (Decidable (_ ∧ _))

theorem Canned.withoutProxies {s : Stub} (h : s.Canned) : s.withoutProxies = s := by
  have all : s.definition.responses.filter (fun r => !r.isProxy) = s.definition.responses := by
    refine List.filter_eq_self.mpr fun r mem => ?_
    have none := List.any_eq_false.mp h.2 r mem
    simpa using none
  rw [Stub.withoutProxies, StubDefinition.withoutProxies, all]

theorem Canned.remains {s : Stub} (h : s.Canned) : s.remains = true := by
  have same := congrArg (fun s => s.definition.responses) h.withoutProxies
  dsimp only [Stub.withoutProxies] at same
  rw [Stub.remains, same]
  simpa using h.1

end Stub

/-! ### Stores -/

namespace Store

/-- The store without proxies, and without stubs that have nothing else. -/
def withoutProxies (s : Store) : Store :=
  { s with stubs := (s.stubs.filter Stub.remains).map Stub.withoutProxies }

variable {s : Store} {request : Request}

theorem Sound.withoutProxies (h : s.Sound) : s.withoutProxies.Sound := by
  have kept : ∀ {stub : Stub}, stub ∈ s.withoutProxies.stubs →
      ∃ old ∈ s.stubs, stub = old.withoutProxies := by
    intro stub mem
    obtain ⟨old, there, rfl⟩ := List.mem_map.mp mem
    exact ⟨old, List.mem_of_mem_filter there, rfl⟩
  have sublist : ∀ f : Stub → Nat, (∀ stub : Stub, f stub.withoutProxies = f stub) →
      (s.withoutProxies.stubs.map f).Sublist (s.stubs.map f) := by
    intro f same
    have plain : s.withoutProxies.stubs.map f = (s.stubs.filter Stub.remains).map f := by
      rw [Store.withoutProxies, List.map_map]
      exact List.map_congr_left fun stub _ => same stub
    rw [plain]
    exact List.filter_sublist.map f
  constructor
  · exact h.distinct.sublist (sublist Stub.id fun _ => rfl)
  · intro stub mem
    obtain ⟨old, there, rfl⟩ := kept mem
    exact h.issued old there
  · exact h.unshared.sublist (sublist Stub.cell fun _ => rfl)
  · intro stub mem
    obtain ⟨old, there, rfl⟩ := kept mem
    exact h.held old there
  · intro stub mem
    obtain ⟨old, there, rfl⟩ := kept mem
    exact ⟨(h.compiled old there).tree, (h.compiled old there).bare⟩

/-- The first stub that recognises the request has no proxy, if there is one. -/
def MeetsCanned (s : Store) (request : Request) : Prop :=
  ∀ stub ∈ firstMatch request s.stubs [], stub.Canned

instance (s : Store) (request : Request) : Decidable (s.MeetsCanned request) :=
  inferInstanceAs (Decidable (∀ stub ∈ firstMatch request s.stubs [], stub.Canned))

/-- A stub without proxies that is met first is still met first. -/
theorem MeetsCanned.firstMatch (h : s.MeetsCanned request)
    (apart : KeyMatch.folded.Apart request) :
    firstMatch request s.withoutProxies.stubs [] = firstMatch request s.stubs [] := by
  have faithful := Readings.faithful_nil request
  unfold MeetsCanned at h
  rw [firstMatch_plain apart faithful] at h ⊢
  have kept := find?_filter_of_kept (q := Stub.remains) fun stub found => (h stub found).remains
  have recognises : ((fun stub => stub.tree.holds request) ∘ Stub.withoutProxies) =
      fun stub => stub.tree.holds request := rfl
  rw [firstMatch_plain apart faithful, Store.withoutProxies, List.find?_map, recognises, kept]
  cases found : s.stubs.find? fun stub => stub.tree.holds request with
  | none => rfl
  | some stub => rw [Option.map_some, (h stub found).withoutProxies]

theorem withoutProxies_answerFrom (s : Store) (stub : Stub) :
    s.withoutProxies.answerFrom stub =
      ((s.answerFrom stub).1, (s.answerFrom stub).2.withoutProxies) := by
  unfold answerFrom
  split <;> rfl

theorem MeetsCanned.resolve (h : s.MeetsCanned request) (apart : KeyMatch.folded.Apart request) :
    s.withoutProxies.resolve request =
      ((s.resolve request).1, (s.resolve request).2.withoutProxies) := by
  rw [Store.resolve, Store.resolve, h.firstMatch apart]
  split
  · rfl
  · exact withoutProxies_answerFrom s _

/-- What is selected is then a canned response. -/
theorem MeetsCanned.selected (h : s.MeetsCanned request) {selected : Selection}
    (found : (s.resolve request).1 = some selected) :
    ∃ response repeats, selected.response = .literal response repeats := by
  unfold Store.resolve at found
  split at found
  · cases found
  · next stub first =>
    obtain ⟨rfl, among⟩ := answerFrom_selection found
    have noProxy := List.any_eq_false.mp (h _ first).2 _ among
    cases kind : selected.response with
    | literal response repeats => exact ⟨response, repeats, rfl⟩
    | proxy target =>
      rw [kind] at noProxy
      exact absurd rfl noProxy

end Store

/-! ### Imposters -/

namespace Imposter

/-- The imposter without proxies, open and with other things at its disposal. -/
def withoutProxies (i : Imposter) (c : Capabilities) : Imposter :=
  { i with capabilities := c, store := i.store.withoutProxies, closed := false }

/-- An open imposter answers a request from a stub without proxies, or by its default response; no
    two fields of the request agree in lower case. -/
structure Admits (i : Imposter) (request : Request) : Prop where
  opened : i.closed = false
  apart : KeyMatch.folded.Apart request
  canned : i.store.MeetsCanned request

instance (i : Imposter) (request : Request) : Decidable (i.Admits request) :=
  decidable_of_iff
    (i.closed = false ∧ KeyMatch.folded.Apart request ∧ i.store.MeetsCanned request)
    ⟨fun ⟨opened, apart, canned⟩ => ⟨opened, apart, canned⟩,
      fun h => ⟨h.opened, h.apart, h.canned⟩⟩

instance (i : Imposter) : Decidable i.Unmoved :=
  inferInstanceAs
    (Decidable (∀ stub ∈ i.store.stubs, (i.store.stateAt stub.cell).cursor = .initial))

variable {i : Imposter} {c : Capabilities} {request : Request}

/-- An export without proxies is an export for replay, once there are none. -/
theorem exported_withoutProxies (i : Imposter) (c : Capabilities) :
    i.exported ⟨true, true⟩ = (i.withoutProxies c).exported .replay := by
  have each : i.exportStub ⟨true, true⟩ = fun stub =>
      if stub.remains then some (Stub.definition stub.withoutProxies) else none := by
    funext stub
    by_cases nothing : (stub.definition.responses.filter fun r => !r.isProxy) = []
    · simp [exportStub, Stub.remains, StubDefinition.withoutProxies, nothing]
    · simp [exportStub, Stub.remains, Stub.withoutProxies, StubDefinition.withoutProxies, nothing]
  have stubs : i.store.stubs.filterMap (i.exportStub ⟨true, true⟩) =
      i.store.withoutProxies.stubs.map Stub.definition := by
    rw [each, filterMap_ite, Store.withoutProxies, List.map_map]
    rfl
  rw [exported_replay, Imposter.exported, stubs]
  rfl

/-! ### Requests that meet no proxy -/

theorem withoutProxies_remember (i : Imposter) (c : Capabilities) (stub : Stub) (now : Timestamp)
    (request : Request) (response : LiteralResponse) :
    (i.withoutProxies c).remember stub now request response =
      (i.remember stub now request response).withoutProxies c := by
  unfold remember
  cases keeps : i.recordMatches with
  | true => simp [withoutProxies, keeps, Store.withoutProxies, Store.modifyState]
  | false => simp [withoutProxies, keeps]

theorem Admits.asked (h : i.Admits request) (c : Capabilities) (now : Timestamp) :
    (i.withoutProxies c).asked now request = (i.asked now request).withoutProxies c := by
  have resolved := congrArg Prod.snd (h.canned.resolve h.apart)
  unfold Imposter.asked
  rw [show (i.withoutProxies c).store = i.store.withoutProxies from rfl, resolved]
  rfl

/-- The request is answered in the same way without proxies, and the two stay in step. -/
theorem Admits.handle (h : i.Admits request) (c : Capabilities) (now : Timestamp)
    (ask ask' : ProxyTarget → Exchange) :
    let done := i.handle now request ask
    let done' := (i.withoutProxies c).handle now request ask'
    (∃ r, done.1 = .ok r ∧ done'.1 = .ok r) ∧ done'.2.1 = done.2.1.withoutProxies c ∧
      done.2.1.closed = false ∧ done.2.1.store.stubs = i.store.stubs := by
  have found' : (i.store.withoutProxies.resolve request).1 = (i.store.resolve request).1 := by
    rw [h.canned.resolve h.apart]
  cases found : (i.store.resolve request).1 with
  | none =>
    rw [found] at found'
    obtain ⟨result, after⟩ := handle_missed h.opened now found ask
    obtain ⟨result', after'⟩ := handle_missed (i := i.withoutProxies c) rfl now found' ask'
    dsimp only
    rw [result, result', after, after']
    exact ⟨⟨_, rfl, rfl⟩, h.asked c now, h.opened, asked_stubs i now request⟩
  | some selected =>
    rw [found] at found'
    obtain ⟨response, repeats, canned⟩ := h.canned.selected found
    obtain ⟨-, result, after⟩ := handle_literal h.opened now found canned ask
    obtain ⟨-, result', after'⟩ :=
      handle_literal (i := i.withoutProxies c) rfl now found' canned ask'
    dsimp only
    rw [result, result', after, after', h.asked c now, withoutProxies_remember]
    refine ⟨⟨_, rfl, rfl⟩, rfl, ?_, ?_⟩
    · rw [remember_closed]
      exact h.opened
    · rw [remember_stubs, asked_stubs]

/-- The stubs decide which requests are admitted. -/
theorem Admits.of_stubs (h : i.Admits request) {i' : Imposter} (opened : i'.closed = false)
    (stubs : i'.store.stubs = i.store.stubs) : i'.Admits request := by
  refine ⟨opened, h.apart, ?_⟩
  unfold Store.MeetsCanned
  rw [stubs]
  exact h.canned

/-- Requests that are admitted are all answered in the same way without proxies. -/
theorem Admits.visits {vs : List Visit} (h : ∀ v ∈ vs, i.Admits v.request) (c : Capabilities)
    (replies replies' : Nat → Request → ProxyTarget → ProxyReply) (calls calls' : Nat) :
    (i.visits replies calls vs).1 = ((i.withoutProxies c).visits replies' calls' vs).1 ∧
      ∀ result ∈ (i.visits replies calls vs).1, ∃ r, result = .ok r := by
  induction vs generalizing i calls calls' with
  | nil => exact ⟨rfl, nofun⟩
  | cons v vs ih =>
    obtain ⟨⟨r, result, result'⟩, after', opened, stubs⟩ :=
      (h v List.mem_cons_self).handle c v.now
        (fun target => ⟨[], replies calls v.request target, v.latency⟩)
        (fun target => ⟨[], replies' calls' v.request target, v.latency⟩)
    have still : ∀ w ∈ vs, Admits (i.visit replies calls v).2.1 w.request := fun w mem =>
      (h w (List.mem_cons_of_mem _ mem)).of_stubs opened stubs
    obtain ⟨later, fine⟩ := ih still (i.visit replies calls v).2.2
      ((i.withoutProxies c).visit replies' calls' v).2.2
    have next : ((i.withoutProxies c).visit replies' calls' v).2.1 =
        (i.visit replies calls v).2.1.withoutProxies c := after'
    have first : (i.visit replies calls v).1 = .ok r := result
    have first' : ((i.withoutProxies c).visit replies' calls' v).1 = .ok r := result'
    unfold Imposter.visits
    dsimp only
    rw [first, first', next, later]
    refine ⟨rfl, ?_⟩
    intro x mem
    rcases List.mem_cons.mp mem with rfl | mem
    · exact ⟨r, rfl⟩
    · rw [← later] at mem
      exact fine x mem

/-! ### What is built from the export -/

theorem stubs_withoutProxies (i : Imposter) :
    (i.exported ⟨true, true⟩).stubs =
      (i.store.stubs.map fun stub => stub.definition.withoutProxies).filter fun d =>
        !d.responses.isEmpty := by
  rw [exported_withoutProxies i i.capabilities, exported_replay, List.filter_map]
  exact List.map_map

theorem Unmoved.withoutProxies (h : i.Unmoved) (c : Capabilities) :
    (i.withoutProxies c).Unmoved := by
  intro stub mem
  obtain ⟨old, there, rfl⟩ := List.mem_map.mp mem
  exact h old (List.mem_of_mem_filter there)

/-- The same response, by default on both sides or on none. -/
def AnsweredAlike (x y : Except HandleError Resolution) : Prop :=
  ∃ r r', x = .ok r ∧ y = .ok r' ∧ r.response = r'.response ∧
    (r.outcome = .default ↔ r'.outcome = .default)

theorem answeredAlike_rename {rename : Nat → Nat} {y : Except HandleError Resolution}
    {r : Resolution} (same : y.map (Resolution.rename rename) = .ok r) :
    AnsweredAlike (y.map (Resolution.rename rename)) y := by
  obtain ⟨r', rfl, rfl⟩ := Except.map_eq_ok.mp same
  refine ⟨_, r', rfl, rfl, rfl, ?_⟩
  cases outcome : r'.outcome <;> simp [Resolution.rename, Outcome.rename, outcome]

/-- Whatever has happened to an imposter: its export without proxies lists what is left of its
    stubs, those that have other responses, in order; if all was read, the export reads back.  It
    can be built wherever scripts may decide or not as before.  If no cursor has moved, what is
    built answers any requests, each of which a stub without proxies would be the first to
    recognise, or none, with the same responses, and by default where the original does. -/
theorem others_answer_without_proxies {c c' : Capabilities} {d : ImposterDefinition}
    {built : Imposter} (made : build c d = .ok built) (scripts : c'.scripts = c.scripts)
    (events : List TrafficEvent) :
    let i := ((Traffic.start built).run events).imposter
    let e := i.exported ⟨true, true⟩
    (e.stubs = (i.store.stubs.map fun stub => stub.definition.withoutProxies).filter
          (fun d => !d.responses.isEmpty) ∧
        ∀ s ∈ e.stubs, s.responses ≠ [] ∧ s.hasProxy = false) ∧
      (ImposterDefinition.decode.Reads d → (∀ event ∈ events, event.Authored) →
        ImposterDefinition.decode e.encode = .ok e) ∧
      ∃ j, build c' e = .ok j ∧ (i.Unmoved →
        ∀ (replies replies' : Nat → Request → ProxyTarget → ProxyReply) (calls calls' : Nat)
          (vs vs' : List Visit), vs.map Visit.request = vs'.map Visit.request →
            (∀ v ∈ vs, i.Admits v.request) →
              List.Forall₂ AnsweredAlike (i.visits replies calls vs).1
                (j.visits replies' calls' vs').1) := by
  intro i e
  have leads := Traffic.built_leads made events
  have sound : i.store.Sound := leads.sound (Store.sound_empty c.scripts)
  refine ⟨⟨stubs_withoutProxies i, ?_⟩, ?_, ?_⟩
  · intro s mem
    rw [show e.stubs = _ from stubs_withoutProxies i] at mem
    obtain ⟨there, some⟩ := List.mem_filter.mp mem
    obtain ⟨stub, -, rfl⟩ := List.mem_map.mp there
    refine ⟨by simpa using some, List.any_eq_false.mpr fun r mem => ?_⟩
    simpa using (List.mem_filter.mp mem).2
  · intro read authored
    have live := ((Traffic.start_wellFormed read made).run authored).imposter
    exact ImposterDefinition.decode_encode (live.exported ⟨true, true⟩ nofun)
  · obtain ⟨j, rebuilt, alike⟩ := build_exported_with (i := i.withoutProxies c') (c := c')
      sound.withoutProxies (leads.later.scripts.trans scripts.symm)
    rw [← exported_withoutProxies] at rebuilt
    refine ⟨j, rebuilt, ?_⟩
    intro unmoved replies replies' calls calls' vs vs' requests admits
    obtain ⟨same, fine⟩ := Admits.visits admits c' replies replies' calls calls'
    obtain ⟨renamed, -⟩ := (alike (unmoved.withoutProxies c')).visits
      sound.withoutProxies.restored_injective replies' calls' requests
    have results : (i.visits replies calls vs).1 =
        (j.visits replies' calls' vs').1.map
          (Except.map (Resolution.rename (i.withoutProxies c').store.restored)) :=
      same.trans renamed
    rw [results] at fine ⊢
    refine List.forall₂_map_left_iff.mpr (List.forall₂_same.mpr fun y mem => ?_)
    obtain ⟨r, ok⟩ := fine _ (List.mem_map_of_mem mem)
    exact answeredAlike_rename ok

/-- A stub for a path. -/
def onPath (path : String) (responses : List ResponseDefinition) : StubDefinition :=
  ⟨[.leaf .equals [("path", .str path)] .default], responses, []⟩

/-- One path leads to an origin, one to a response and an origin in turn, one to a response. -/
def threeKinds : ImposterDefinition where
  port := 4545
  protocol := "http"
  name := none
  recordRequests := false
  recordMatches := false
  defaultResponse := none
  stubs := [onPath "/a" [.proxy (.bare "http://origin" .once)],
    onPath "/b" [.literal .plain none, .proxy (.bare "http://origin" .once)],
    onPath "/c" [.literal .plain (some 2)]]
  requestCount := none
  requests := []

/-- The stub that is made for a path. -/
def builtOnPath (number : Nat) (path : String) (responses : List ResponseDefinition) : Stub where
  id := number
  definition := onPath path responses
  tree := [.leaf ⟨.equals, [("path", .scalar (.text path))], ⟨.folded, ⟨false, none⟩, none⟩⟩]
  cell := number

/-- The imposter once it is built. -/
def threeKindsBuilt : Imposter where
  port := 4545
  protocol := "http"
  name := none
  recordRequests := false
  recordMatches := false
  defaultResponse := .plain
  capabilities := brokerOnly
  store := {
    stubs := [builtOnPath 0 "/a" [.proxy (.bare "http://origin" .once)],
      builtOnPath 1 "/b" [.literal .plain none, .proxy (.bare "http://origin" .once)],
      builtOnPath 2 "/c" [.literal .plain (some 2)]]
    nextId := 3
    cells := [.initial, .initial, .initial]
    scripts := false }
  requests := []
  count := 0
  closed := false

/-- Visits to the last path, to none, and to the last again. -/
def visitsToCanned : List Visit :=
  ["/c", "/d", "/c"].map fun path => ⟨⟨0, 0⟩, [("path", .str path)], ⟨0⟩⟩

theorem threeKinds_without_proxies :
    ∃ j, build brokerOnly (threeKindsBuilt.exported ⟨true, true⟩) = .ok j ∧
      (threeKindsBuilt.exported ⟨true, true⟩).stubs.length = 2 ∧
      List.Forall₂ AnsweredAlike
        (threeKindsBuilt.visits (fun _ _ _ => .silent) 0 visitsToCanned).1
        (j.visits (fun _ _ _ => .silent) 0 visitsToCanned).1 := by
  have made : build brokerOnly threeKinds = .ok threeKindsBuilt := rfl
  have admits : ∀ v ∈ visitsToCanned, threeKindsBuilt.Admits v.request := by decide +kernel
  have unmoved : threeKindsBuilt.Unmoved := by decide
  obtain ⟨-, -, j, rebuilt, alike⟩ := others_answer_without_proxies made rfl []
  exact ⟨j, rebuilt, rfl, alike unmoved _ _ _ _ _ _ rfl admits⟩

end Imposter

end VirtualService
