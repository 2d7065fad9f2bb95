/-
  VirtualService/Proofs/Playback.lean
  ===================================
  **Recordings that are played back.**

  Exported without its proxy and built again, an imposter that has recorded every
  answer serves the groups of its recordings, the last to appear first
  (`Imposter.build_plays`).  When the requests come again in the same order, each
  group hands out its answers in order of arrival, as long as every request is
  recognised by its own group first (`Recording.Unmistaken.firstMatch`).  What is
  recorded for a later request must not recognise an earlier one: recordings are
  grouped by equality, but recognise regardless of case (`later_recording_is_played`).
-/
import Mathlib.Data.List.Pairwise
import VirtualService.Proofs.Cycling
import VirtualService.Proofs.Grouping
import VirtualService.Proofs.Http
import VirtualService.Proofs.Readings

namespace VirtualService

/-! ### Order of appearance -/

namespace Recording

/-- The number of the first recording with some predicates, among all. -/
def appearance (recorded : List Recorded) (predicates : List Predicate) : Nat :=
  recorded.findIdx fun r => Predicate.sameAll r.predicates predicates

variable {recorded : List Recorded} {r : Recorded}

theorem kinds_mem {kind : List Predicate} (mem : kind ∈ kinds recorded) :
    ∃ r ∈ recorded, r.predicates = kind := by
  induction recorded using List.reverseRecOn with
  | nil => cases mem
  | append_singleton recorded last ih =>
    have before (mem : kind ∈ kinds recorded) : ∃ r ∈ recorded ++ [last], r.predicates = kind := by
      obtain ⟨r, there, same⟩ := ih mem
      exact ⟨r, List.mem_append_left _ there, same⟩
    rw [kinds_append] at mem
    split at mem
    · exact before mem
    · rcases List.mem_append.mp mem with old | new
      · exact before old
      · exact ⟨last, by simp, (List.mem_singleton.mp new).symm⟩

theorem appearance_of_known {predicates : List Predicate}
    (known : ∃ r ∈ recorded, Predicate.sameAll r.predicates predicates = true) (r : Recorded) :
    appearance (recorded ++ [r]) predicates = appearance recorded predicates ∧
      appearance recorded predicates < recorded.length := by
  have found : appearance recorded predicates < recorded.length :=
    List.findIdx_lt_length_of_exists known
  refine ⟨?_, found⟩
  unfold appearance at found ⊢
  rw [List.findIdx_append, if_pos found]

/-- The lists stand in the order in which they have appeared. -/
theorem kinds_ordered
    (reflexive : ∀ r ∈ recorded, Predicate.sameAll r.predicates r.predicates = true) :
    (kinds recorded).Pairwise fun old new => appearance recorded old < appearance recorded new := by
  induction recorded using List.reverseRecOn with
  | nil => exact .nil
  | append_singleton recorded last ih =>
    have before : ∀ r ∈ recorded, Predicate.sameAll r.predicates r.predicates = true :=
      fun r mem => reflexive r (List.mem_append_left _ mem)
    -- the lists that are known appear where they did
    have kept : ∀ kind ∈ kinds recorded,
        appearance (recorded ++ [last]) kind = appearance recorded kind ∧
          appearance recorded kind < recorded.length := by
      intro kind mem
      obtain ⟨r, there, rfl⟩ := kinds_mem mem
      exact appearance_of_known ⟨r, there, before r there⟩ last
    have old := (ih before).imp_of_mem fun {a b} memA memB earlier => by
      rw [← (kept a memA).1, ← (kept b memB).1] at earlier
      exact earlier
    rw [kinds_append]
    split
    · exact old
    · next unknown =>
      refine List.pairwise_append.mpr ⟨old, List.pairwise_singleton _ _, ?_⟩
      intro kind mem new there
      have fresh : ∀ r ∈ recorded, Predicate.sameAll r.predicates last.predicates = false := by
        intro r mem
        by_contra same
        rw [Bool.not_eq_false] at same
        have back := Predicate.sameAll_of_third (reflexive last (by simp)) same
        simp [never_recorded before (by simpa using unknown) r mem] at back
      have latest : recorded.length ≤ appearance (recorded ++ [last]) last.predicates := by
        rw [appearance, List.findIdx_append, List.findIdx_eq_length_of_false fresh,
          if_neg (Nat.lt_irrefl _)]
        exact Nat.le_add_left _ _
      rw [List.mem_singleton.mp there, (kept kind mem).1]
      exact Nat.lt_of_lt_of_le (kept kind mem).2 latest

/-! ### Groups as they are served -/

theorem mem_groups {d : StubDefinition} (mem : d ∈ groups recorded) :
    d.predicates ∈ kinds recorded ∧ d.records = [] ∧
      d.responses = (answersFor recorded d.predicates).map fun answer => .literal answer none := by
  obtain ⟨kind, there, rfl⟩ := List.mem_map.mp mem
  exact ⟨List.mem_reverse.mp there, rfl, rfl⟩

theorem answersFor_ne_nil
    (reflexive : ∀ r ∈ recorded, Predicate.sameAll r.predicates r.predicates = true)
    {kind : List Predicate} (mem : kind ∈ kinds recorded) : answersFor recorded kind ≠ [] := by
  obtain ⟨r, there, rfl⟩ := kinds_mem mem
  have among : r.answer ∈ answersFor recorded r.predicates :=
    List.mem_map_of_mem (List.mem_filter.mpr ⟨there, reflexive r there⟩)
  exact List.ne_nil_of_mem among

/-! ### Recorded requests -/

theorem defaultPredicates_toRequest (parts : HttpParts) :
    defaultPredicates parts.toRequest ≠ [] := by
  have method : ("method", Json.str parts.method) ∈
      parts.toRequest.filter fun entry => !unmatched.contains entry.1 :=
    List.mem_filter.mpr ⟨Dict.mem_of_find? parts.find?_method, rfl⟩
  unfold defaultPredicates
  split
  · next nothing =>
    rw [nothing] at method
    cases method
  · simp

/-- What is recorded of one request recognises another. -/
def recognises (x request : Request) : Bool := ((defaultTree x).evaluate request []).1

theorem defaultTree_congr {x y : Request} (h : defaultPredicates x = defaultPredicates y) :
    defaultTree x = defaultTree y := by
  have made := compile_default false x
  rw [h, compile_default] at made
  exact (Except.ok.inj made).symm

/-- Without floats the program takes only identical predicates for the same. -/
theorem defaultPredicates_eq {x y : Request} (floatless : ∀ field ∈ x, field.2.Floatless)
    (same : Predicate.sameAll (defaultPredicates x) (defaultPredicates y) = true) :
    defaultPredicates x = defaultPredicates y := by
  have kept : Json.FloatlessMembers (x.filter fun entry => !unmatched.contains entry.1) :=
    Json.floatlessMembers_iff.mpr fun field mem => floatless field (List.mem_filter.mp mem).1
  unfold defaultPredicates at same ⊢
  generalize x.filter (fun entry => !unmatched.contains entry.1) = a at *
  generalize y.filter (fun entry => !unmatched.contains entry.1) = b at *
  cases a with
  | nil =>
    cases b with
    | nil => rfl
    | cons field fields => cases same
  | cons field fields =>
    cases b with
    | nil => cases same
    | cons field' fields' =>
      simp only [Predicate.sameAll, Predicate.same, Bool.and_eq_true] at same
      rw [Json.eq_of_sameMembers kept same.1.1.2]

theorem answersFor_split {played rest : List Recorded} {predicates : List Predicate}
    (same : Predicate.sameAll predicates r.predicates = true) :
    answersFor (played ++ r :: rest) predicates =
      answersFor played predicates ++ r.answer :: answersFor rest predicates := by
  simp only [answersFor, List.filter_append, List.filter_cons, same, if_true, List.map_append,
    List.map_cons]

end Recording

namespace Imposter

variable {i : Imposter} {p : Stub} {target : ProxyTarget} {scripts : Bool}
  {recorded : List Recorded} {c : Capabilities}

/-- Without the proxy the groups are left. -/
theorem Records.exported (h : i.Records p scripts recorded)
    (proxy : p.definition.responses = [.proxy target])
    (reflexive : ∀ r ∈ recorded, Predicate.sameAll r.predicates r.predicates = true) :
    (i.exported ⟨true, true⟩).stubs = Recording.groups recorded := by
  obtain ⟨rest, listed, grouped⟩ := h.grouped
  have dropped : i.exportStub ⟨true, true⟩ p = none := by
    simp [exportStub, proxy, ResponseDefinition.isProxy]
  have left : ∀ stub ∈ rest, i.exportStub ⟨true, true⟩ stub = some stub.definition := by
    intro stub mem
    have group : stub.definition ∈ Recording.groups recorded := grouped ▸ List.mem_map_of_mem mem
    obtain ⟨kind, -, responses⟩ := Recording.mem_groups group
    have canned : (stub.definition.responses.filter fun r => !r.isProxy) =
        stub.definition.responses := by
      rw [List.filter_eq_self, responses]
      intro r among
      obtain ⟨answer, -, rfl⟩ := List.mem_map.mp among
      rfl
    have nonempty : stub.definition.responses.isEmpty = false := by
      rw [List.isEmpty_eq_false_iff, responses, ne_eq, List.map_eq_nil_iff]
      exact Recording.answersFor_ne_nil reflexive kind
    simp [exportStub, canned, nonempty]
  rw [← grouped, Imposter.exported]
  dsimp only
  rw [listed, List.filterMap_cons_none dropped, List.filterMap_congr left, List.filterMap_eq_map']

/-- An imposter can be built from definitions whose predicates compile, and lists them. -/
theorem build_listed {d : ImposterDefinition}
    (compiles : ∀ s ∈ d.stubs, ∃ tree, PredicateTree.compile c.scripts s.predicates = .ok tree)
    (bare : ∀ s ∈ d.stubs, s.records = []) :
    ∃ j, build c d = .ok j ∧ j.closed = false ∧ j.store.stubs.map Stub.definition = d.stubs ∧
      j.store = ((Store.empty c.scripts).apply (.replaceAll d.stubs)).2 := by
  rcases Store.enlistAll_cases (Store.empty c.scripts) d.stubs with
    ⟨e, issued, cells, -, faulty, mem, fault⟩ | ⟨stubs, t, made, enlisted⟩
  · obtain ⟨tree, compiled⟩ := compiles faulty mem
    rw [show (Store.empty c.scripts).scripts = c.scripts from rfl, compiled] at fault
    cases fault
  · have applied : (Store.empty c.scripts).apply (.replaceAll d.stubs) =
        (.ok (.replacedAll (stubs.map Stub.id)), { t with stubs := stubs }) := by
      simp only [Store.apply, made]
    have definitions : stubs.map Stub.definition = d.stubs := by
      rw [enlisted.definitions]
      exact (List.map_congr_left fun s mem => StubDefinition.eq_of_bare (bare s mem)).trans
        (List.map_id _)
    unfold build
    rw [applied]
    exact ⟨_, rfl, rfl, definitions, rfl⟩

end Imposter

/-! ### Who recognises a request first -/

namespace Recording

/-- What is recorded without generators. -/
def byDefault (answered : List Answered) : List Recorded :=
  answered.map fun a => a.recorded []

/-- Every request is recognised by what is recorded of it, and by nothing that was recorded for the
    first time after that. -/
structure Unmistaken (answered : List Answered) : Prop where
  own : ∀ a ∈ answered, recognises a.visit.request a.visit.request = true
  earlier : ∀ a ∈ answered, ∀ b ∈ answered,
    recognises b.visit.request a.visit.request = true →
      appearance (byDefault answered) (defaultPredicates b.visit.request) ≤
        appearance (byDefault answered) (defaultPredicates a.visit.request)

variable {answered : List Answered}

theorem byDefault_reflexive
    (http : ∀ a ∈ answered, ∃ parts : HttpParts, a.visit.request = parts.toRequest) :
    ∀ r ∈ byDefault answered, Predicate.sameAll r.predicates r.predicates = true := by
  intro r mem
  obtain ⟨a, there, rfl⟩ := List.mem_map.mp mem
  obtain ⟨parts, arrives⟩ := http a there
  have wellFormed : (Json.obj a.visit.request).WellFormed :=
    arrives ▸ parts.toRequest_wellFormed
  exact predicates_sameAll_self wellFormed (List.forall_mem_nil PredicateGenerator.WellFormed)

/-- A stub of the groups was recorded of a request, and recognises what is recognised by what was
    recorded of that. -/
theorem recorded_of {stubs : List Stub}
    (grouped : stubs.map Stub.definition = groups (byDefault answered)) {scripts : Bool}
    (compiled : ∀ stub ∈ stubs, stub.Compiled scripts) {request : Request}
    (apart : KeyMatch.folded.Apart request) {stub : Stub} (there : stub ∈ stubs) :
    ∃ b ∈ answered, stub.definition.predicates = defaultPredicates b.visit.request ∧
      stub.tree.holds request = recognises b.visit.request request := by
  have kind : stub.definition.predicates ∈ kinds (byDefault answered) := by
    rw [← List.mem_reverse, ← stubs_predicates grouped]
    exact List.mem_map_of_mem (f := fun stub : Stub => stub.definition.predicates) there
  obtain ⟨r, memR, same⟩ := kinds_mem kind
  obtain ⟨b, memB, rfl⟩ := List.mem_map.mp memR
  have tree : stub.tree = defaultTree b.visit.request := by
    have made := (compiled stub there).tree
    rw [← same] at made
    exact (Except.ok.inj ((compile_default scripts b.visit.request).symm.trans made)).symm
  refine ⟨b, memB, same.symm, ?_⟩
  rw [tree]
  exact (CompiledPredicate.evaluateAll_plain apart _ (Readings.faithful_nil _)).1.symm

section Served

variable (http : ∀ a ∈ answered, ∃ parts : HttpParts, a.visit.request = parts.toRequest)
  {stubs : List Stub} (grouped : stubs.map Stub.definition = groups (byDefault answered))

include http grouped

/-- Every request has a stub among the groups with what is recorded of it. -/
theorem own_group {a : Answered} (mem : a ∈ answered) :
    ∃ own ∈ stubs, own.definition.predicates = defaultPredicates a.visit.request := by
  obtain ⟨kind, memKind, same⟩ :=
    kinds_cover (byDefault_reflexive http) (a.recorded []) (List.mem_map_of_mem mem)
  obtain ⟨r, memR, rfl⟩ := kinds_mem memKind
  obtain ⟨b, memB, rfl⟩ := List.mem_map.mp memR
  obtain ⟨parts, arrives⟩ := http b memB
  have identical := defaultPredicates_eq
    (fun field memField => parts.toRequest_floatless (arrives ▸ memField)) same
  rw [← List.mem_reverse, ← stubs_predicates grouped] at memKind
  obtain ⟨own, there, predicates⟩ := List.mem_map.mp memKind
  exact ⟨own, there, predicates.trans identical⟩

/-- The first of the groups that recognises a request is its own. -/
theorem Unmistaken.firstMatch (h : Unmistaken answered) {scripts : Bool}
    (compiled : ∀ stub ∈ stubs, stub.Compiled scripts) {a : Answered} (mem : a ∈ answered) :
    ∃ own, Store.firstMatch a.visit.request stubs [] = some own ∧
      own.definition.predicates = defaultPredicates a.visit.request := by
  obtain ⟨parts, arrives⟩ := http a mem
  have apart : KeyMatch.folded.Apart a.visit.request := arrives ▸ parts.toRequest_apart
  rw [Store.firstMatch_plain apart (Readings.faithful_nil _)]
  obtain ⟨own, there, predicates⟩ := own_group http grouped mem
  have holdsOwn : own.tree.holds a.visit.request = true := by
    obtain ⟨b, -, same, holds⟩ := recorded_of grouped compiled apart there
    rw [holds, recognises, ← defaultTree_congr (predicates.symm.trans same)]
    exact h.own a mem
  obtain ⟨first, found⟩ := Option.isSome_iff_exists.mp
    (List.find?_isSome (p := fun stub : Stub => stub.tree.holds a.visit.request).mpr
      ⟨own, there, holdsOwn⟩)
  refine ⟨first, found, ?_⟩
  obtain ⟨holdsFirst, before, after, split, fails⟩ := List.find?_eq_some_iff_append.mp found
  have ordered := List.pairwise_reverse.mpr (kinds_ordered (byDefault_reflexive http))
  rw [← stubs_predicates grouped, List.pairwise_map, split] at ordered
  have behind := (List.pairwise_cons.mp (List.pairwise_append.mp ordered).2.1).1
  have firstThere : first ∈ stubs := List.mem_of_find?_eq_some found
  rw [split] at there
  rcases List.mem_append.mp there with inFront | here
  · have missed := fails own inFront
    simp [holdsOwn] at missed
  rcases List.mem_cons.mp here with rfl | later
  · exact predicates
  · -- the first would have been recorded later, and recognise the request all the same
    obtain ⟨b, memB, predicatesB, holdsB⟩ := recorded_of grouped compiled apart firstThere
    have notLater := h.earlier a mem b memB (holdsB.symm.trans holdsFirst)
    have isLater := behind own later
    rw [predicates, predicatesB] at isLater
    omega

end Served

end Recording

/-! ### One request after the other -/

namespace Store

variable {d : StubDefinition} {k : Nat} {selection : Selection}

/-- Where every response is served once, the turn of a number below their count is its own place. -/
theorem IsTurn.place_eq (turn : IsTurn d k selection) (once : ∀ r ∈ d.responses, r.repeats = none)
    (inside : k < d.responses.length) : selection.place = k := by
  have times : d.times = List.replicate d.responses.length 1 := by
    rw [StubDefinition.times, List.eq_replicate_iff]
    refine ⟨List.length_map _, fun t mem => ?_⟩
    obtain ⟨r, there, rfl⟩ := List.mem_map.mp mem
    rw [once r there]
    rfl
  obtain ⟨-, lower, upper⟩ := turn
  simp only [times, List.take_replicate, List.sum_replicate_nat, Nat.mul_one,
    Nat.mod_eq_of_lt inside] at lower upper
  omega

end Store

namespace Imposter

variable {j : Imposter} {recorded played : List Recorded} {r : Recorded} {request : Request}

/-- An open imposter lists the groups of what was recorded, and each stands where it does once some
    recordings have been played. -/
structure Plays (recorded played : List Recorded) (j : Imposter) : Prop where
  opened : j.closed = false
  sound : j.store.Sound
  grouped : j.store.stubs.map Stub.definition = Recording.groups recorded
  stands : ∀ stub ∈ j.store.stubs, j.store.Stands stub.id stub.definition
    (Recording.answersFor played stub.definition.predicates).length

theorem Plays.remember (h : j.Plays recorded played) (stub : Stub) (now : Timestamp)
    (request : Request) (response : LiteralResponse) :
    (j.remember stub now request response).Plays recorded played := by
  refine ⟨by rw [remember_closed]; exact h.opened,
    (remember_same j stub now request response).2.sound h.sound,
    by rw [remember_stubs]; exact h.grouped, ?_⟩
  intro other mem
  rw [remember_stubs] at mem
  obtain ⟨own, there, same, definition, stands⟩ := h.stands other mem
  refine ⟨own, by rw [remember_stubs]; exact there, same, definition, ?_⟩
  rw [cursor_remember]
  exact stands

section Own

variable {own : Stub} (first : Store.firstMatch request j.store.stubs [] = some own)
  (same : Predicate.sameAll own.definition.predicates r.predicates = true)

include first same

theorem Plays.others (h : j.Plays recorded played) {stub : Stub} (mem : stub ∈ j.store.stubs)
    (other : stub.id ≠ own.id) :
    Predicate.sameAll stub.definition.predicates r.predicates = false := by
  have symmetric : Std.Symm fun a b : Stub =>
      Predicate.sameAll a.definition.predicates r.predicates = true →
        Predicate.sameAll b.definition.predicates r.predicates = false := by
    constructor
    intro a b apart wantedB
    by_contra wantedA
    simp [apart (by simpa using wantedA)] at wantedB
  have distinct : own ≠ stub := fun equal => other (congrArg Stub.id equal).symm
  exact (Recording.single_kind h.grouped r.predicates).forall (Store.firstMatch_mem first) mem
    distinct same

variable {rest : List Recorded} (split : recorded = played ++ r :: rest)
  (few : ∀ d ∈ Recording.groups recorded, d.responses.length < 4294967296)

include split few

/-- The group of a recording that is next hands out its answer, and moves on. -/
theorem Plays.serves (h : j.Plays recorded played) :
    (∃ selection, (j.store.resolve request).1 = some selection ∧
        selection.response = .literal r.answer none) ∧
      (j.store.after (.answer request)).Stands own.id own.definition
        ((Recording.answersFor played own.definition.predicates).length + 1) := by
  have there := Store.firstMatch_mem first
  have group : own.definition ∈ Recording.groups recorded :=
    h.grouped ▸ List.mem_map_of_mem there
  obtain ⟨-, -, responses⟩ := Recording.mem_groups group
  have next : own.definition.responses[(Recording.answersFor played
      own.definition.predicates).length]? = some (.literal r.answer none) := by
    rw [responses, split, Recording.answersFor_split same, List.getElem?_map,
      List.getElem?_append_right (Nat.le_refl _), Nat.sub_self]
    rfl
  have once : ∀ response ∈ own.definition.responses, response.repeats = none := by
    intro response mem
    rw [responses] at mem
    obtain ⟨answer, -, rfl⟩ := List.mem_map.mp mem
    rfl
  have call : j.store.recognised request = some own.id := by
    rw [Store.recognised, first]
    rfl
  obtain ⟨⟨selection, found, turn⟩, moved⟩ :=
    (h.stands own there).call h.sound (few own.definition group) call
  have place := turn.place_eq once (List.getElem?_eq_some_iff.mp next).1
  have chosen := turn.1
  rw [place, next] at chosen
  exact ⟨⟨selection, found, (Option.some.inj chosen).symm⟩, moved⟩

/-- Once it is asked, the group of the recording has moved on, and no other group has. -/
theorem Plays.asked (h : j.Plays recorded played) (now : Timestamp) :
    (j.asked now request).Plays recorded (played ++ [r]) := by
  obtain ⟨-, moved⟩ := h.serves first same split few
  refine ⟨h.opened, (asked_same j now request).2.sound h.sound,
    by rw [asked_stubs]; exact h.grouped, ?_⟩
  intro stub mem
  rw [asked_stubs] at mem
  rw [Recording.answersFor_append, List.length_append]
  by_cases isOwn : stub.id = own.id
  · obtain rfl := h.sound.eq_of_id mem (Store.firstMatch_mem first) isOwn
    rw [if_pos same]
    exact moved
  · have noCall : ¬j.store.IsCall stub.id (.answer request) := by
      rintro ⟨_, ⟨⟩, recognised⟩
      rw [Store.recognised, first] at recognised
      exact isOwn (Option.some.inj recognised).symm
    have still : (j.asked now request).store.Lists stub.id stub.definition :=
      ⟨stub, by rw [asked_stubs]; exact mem, rfl, rfl⟩
    rw [h.others first same mem isOwn, if_neg Bool.false_ne_true]
    exact (h.stands stub mem).other h.sound noCall still

/-- A request that its own group recognises first is given the next answer of the group. -/
theorem Plays.handle (h : j.Plays recorded played) (now : Timestamp)
    (ask : ProxyTarget → Exchange) :
    (j.handle now request ask).1.map Resolution.response = .ok r.answer ∧
      (j.handle now request ask).2.1.Plays recorded (played ++ [r]) := by
  obtain ⟨⟨selection, found, served⟩, -⟩ := h.serves first same split few
  obtain ⟨-, result, after⟩ := handle_literal h.opened now found served ask
  rw [result, after]
  exact ⟨rfl, (h.asked first same split few now).remember selection.stub now request r.answer⟩

end Own

/-! ### All requests again -/

variable {i : Imposter} {c : Capabilities} {answered : List Answered}

/-- The requests that are still to come are given their answers. -/
theorem Plays.visits (unmistaken : Recording.Unmistaken answered)
    (http : ∀ a ∈ answered, ∃ parts : HttpParts, a.visit.request = parts.toRequest)
    (few : ∀ d ∈ Recording.groups (Recording.byDefault answered), d.responses.length < 4294967296)
    {rest : List Answered}
    (h : j.Plays (Recording.byDefault answered) played)
    (split : Recording.byDefault answered = played ++ Recording.byDefault rest)
    (among : ∀ a ∈ rest, a ∈ answered) {vs : List Visit}
    (requests : vs.map Visit.request = rest.map fun a => a.visit.request)
    (replies : Nat → Request → ProxyTarget → ProxyReply) (calls : Nat) :
    (j.visits replies calls vs).1.map (Except.map Resolution.response) =
      rest.map fun a => .ok a.answer := by
  induction rest generalizing j played vs calls with
  | nil =>
    obtain rfl : vs = [] := List.map_eq_nil_iff.mp requests
    rfl
  | cons a rest ih =>
    cases vs with
    | nil => cases requests
    | cons v vs =>
      obtain ⟨request, others⟩ := List.cons.inj requests
      dsimp only at request
      obtain ⟨own, first, predicates⟩ :=
        unmistaken.firstMatch http h.grouped h.sound.compiled (among a List.mem_cons_self)
      have same : Predicate.sameAll own.definition.predicates (a.recorded []).predicates = true := by
        rw [predicates]
        exact Recording.byDefault_reflexive http (a.recorded [])
          (List.mem_map_of_mem (among a List.mem_cons_self))
      rw [← request] at first
      obtain ⟨result, plays⟩ := h.handle first same split few v.now
        fun target => ⟨[], replies calls v.request target, v.latency⟩
      have later := ih plays (by rw [split]; simp [Recording.byDefault])
        (fun b mem => among b (List.mem_cons_of_mem _ mem)) others
        (if j.asks v then calls + 1 else calls)
      unfold Imposter.visits Imposter.visit
      dsimp only
      rw [List.map_cons, List.map_cons, result]
      exact congrArg _ later

/-- Built from the groups of what was recorded without generators, an imposter has played nothing. -/
theorem build_plays {d : ImposterDefinition}
    (http : ∀ a ∈ answered, ∃ parts : HttpParts, a.visit.request = parts.toRequest)
    (grouped : d.stubs = Recording.groups (Recording.byDefault answered)) :
    ∃ j, build c d = .ok j ∧ j.Plays (Recording.byDefault answered) [] := by
  have compiles : ∀ s ∈ d.stubs,
      ∃ tree, PredicateTree.compile c.scripts s.predicates = .ok tree := by
    intro s mem
    rw [grouped] at mem
    obtain ⟨r, memR, same⟩ := Recording.kinds_mem (Recording.mem_groups mem).1
    obtain ⟨a, -, rfl⟩ := List.mem_map.mp memR
    rw [← same]
    exact ⟨_, Recording.compile_default c.scripts a.visit.request⟩
  have bare : ∀ s ∈ d.stubs, s.records = [] := by
    intro s mem
    rw [grouped] at mem
    exact (Recording.mem_groups mem).2.1
  obtain ⟨j, built, opened, listed, store⟩ := build_listed compiles bare
  have edited := Store.apply_edited (Store.empty c.scripts) (.replaceAll d.stubs)
  refine ⟨j, built, opened, store ▸ edited.sound (Store.sound_empty c.scripts),
    listed.trans grouped, ?_⟩
  intro stub mem
  have group : stub.definition ∈ Recording.groups (Recording.byDefault answered) :=
    grouped ▸ listed ▸ List.mem_map_of_mem mem
  obtain ⟨kind, -, responses⟩ := Recording.mem_groups group
  have some : stub.definition.responses ≠ [] := by
    rw [responses, ne_eq, List.map_eq_nil_iff]
    exact Recording.answersFor_ne_nil (Recording.byDefault_reflexive http) kind
  rw [store] at mem ⊢
  exact Store.stands_new (by simp [Store.ids, Store.empty]) some ⟨stub, mem, rfl, rfl⟩

/-- However an imposter has come about whose only stub is a proxy that records always, without
    predicates and without generators: it handles any requests by HTTP, each answered by its origin,
    with fewer than 2^32 answers in a group.  If every request is recognised by what is recorded of
    it, and by nothing that was recorded for the first time after that, then what is built from its
    export without the proxy gives the same requests the same answers again, in the same order. -/
theorem proxyAlways_plays_back {p : Stub} {target : ProxyTarget} (reachable : Reachable c i)
    (opened : i.closed = false) (brokered : i.capabilities.brokered = true)
    (only : i.store.stubs = [p]) (bare : p.definition.predicates = [])
    (proxy : p.definition.responses = [.proxy target]) (always : target.mode = .always)
    (plain : target.generators = []) (answered : List Answered)
    (http : ∀ a ∈ answered, ∃ parts : HttpParts, a.visit.request = parts.toRequest)
    (few : ∀ d ∈ Recording.groups (Recording.byDefault answered), d.responses.length < 4294967296)
    (unmistaken : Recording.Unmistaken answered)
    (c' : Capabilities) :
    ∃ j, build c' ((i.exchanges answered).exported ⟨true, true⟩) = .ok j ∧
      ∀ (replies : Nat → Request → ProxyTarget → ProxyReply) (calls : Nat) (vs : List Visit),
        vs.map Visit.request = answered.map (fun a => a.visit.request) →
          (j.visits replies calls vs).1.map (Except.map Resolution.response) =
            answered.map fun a => .ok a.answer := by
  have start : i.Records p c.scripts [] :=
    ⟨opened, brokered, reachable.leads.later.scripts, reachable.sound, [], only, rfl⟩
  have reflexive := Recording.byDefault_reflexive http
  have made : ∀ a ∈ answered, (a.recorded target.generators).predicates ≠ [] ∧
      ∃ tree, PredicateTree.compile c.scripts (a.recorded target.generators).predicates =
        .ok tree := by
    intro a mem
    obtain ⟨parts, arrives⟩ := http a mem
    rw [plain]
    refine ⟨?_, _, Recording.compile_default c.scripts a.visit.request⟩
    rw [Answered.recorded, arrives]
    exact Recording.defaultPredicates_toRequest parts
  have records := start.exchanges bare proxy always made (by rw [plain]; exact reflexive)
  rw [plain] at records
  have exported := records.exported proxy reflexive
  obtain ⟨j, built, plays⟩ := build_plays (c := c') http exported
  refine ⟨j, built, fun replies calls vs requests => ?_⟩
  exact plays.visits unmistaken http few rfl (fun a mem => mem) requests replies calls

/-- An imposter whose only stub is a proxy that records always. -/
def recordingAll : Imposter := forwarding (.bare "http://origin" .always)

/-- A request by HTTP for a path. -/
def asking (path : String) : HttpParts := ⟨"GET", path, some "k=1", [], none, none⟩

/-- Such a request, and the status of the answer. -/
def got (path : String) (status : UInt16) : Answered :=
  ⟨⟨⟨0, 0⟩, (asking path).toRequest, ⟨0⟩⟩, { LiteralResponse.plain with status := status }⟩

/-- Two paths in turn, the first of them twice. -/
def gotThree : List Answered := [got "/a" 201, got "/b" 202, got "/a" 203]

theorem gotThree_plays_back :
    Recording.Unmistaken gotThree ∧
      ∃ j, build Imposter.brokerOnly ((recordingAll.exchanges gotThree).exported ⟨true, true⟩) =
          .ok j ∧
        (j.visits (fun _ _ _ => .silent) 0 (gotThree.map Answered.visit)).1.map
            (Except.map Resolution.response) =
          gotThree.map fun a => .ok a.answer := by
  have http : ∀ a ∈ gotThree, ∃ parts : HttpParts, a.visit.request = parts.toRequest := by
    intro a mem
    simp only [gotThree, List.mem_cons, List.not_mem_nil, or_false] at mem
    rcases mem with rfl | rfl | rfl
    · exact ⟨asking "/a", rfl⟩
    · exact ⟨asking "/b", rfl⟩
    · exact ⟨asking "/a", rfl⟩
  have unmistaken : Recording.Unmistaken gotThree :=
    ⟨by decide +kernel, by decide +kernel⟩
  obtain ⟨j, built, plays⟩ := proxyAlways_plays_back
    (forwarding_reachable (.bare "http://origin" .always)) rfl rfl rfl rfl rfl rfl rfl gotThree http
    (by decide +kernel) unmistaken Imposter.brokerOnly
  exact ⟨unmistaken, j, built, plays _ _ _ (by simp)⟩

/-- Two paths that differ in case alone. -/
def gotBothCases : List Answered := [got "/A" 201, got "/a" 202]

/-- Requests for them are recorded one by one, and yet both are played back with the later answer. -/
theorem later_recording_is_played :
    let exported := (recordingAll.exchanges gotBothCases).exported ⟨true, true⟩
    let played (j : Imposter) := (j.visits (fun _ _ _ => .silent) 0
      (gotBothCases.map Answered.visit)).1.map (Except.map fun r => r.response.status)
    exported.stubs.length = 2 ∧ (build Imposter.brokerOnly exported).toOption.map
        (fun j => (played j).map Except.toOption) = some [some 202, some 202] ∧
      gotBothCases.map (fun a => a.answer.status) = [201, 202] := by
  decide +kernel

end Imposter

end VirtualService
