/-
  VirtualService/Proofs/Grouping.lean
  ===================================
  **What a proxy records of every answer.**

  A proxy that records always keeps a stub for each list of predicates that was
  generated, and adds each answer to the stub of its list (`Recording.groups`).  One
  answer more extends the only stub of its list, or stands in a new stub directly
  after the proxy (`Store.Sound.append_groups`).  So after any number of requests
  nothing is lost and nothing doubled (`proxyAlways_groups`).
-/
import Mathlib.Data.List.Induction
import VirtualService.Proofs.Handling
import VirtualService.Proofs.History
import VirtualService.Proofs.Recognition
import VirtualService.Proofs.Sameness

namespace VirtualService

/-! ### Groups of recordings -/

/-- The predicates generated of a request, and what its origin has answered. -/
structure Recorded where
  predicates : List Predicate
  answer : LiteralResponse

namespace Recording

/-- The distinct lists of predicates, in order of first appearance. -/
def kinds (recorded : List Recorded) : List (List Predicate) :=
  (recorded.map Recorded.predicates).eraseDupsBy fun new old => Predicate.sameAll old new

/-- The answers recorded for a list of predicates, in order of arrival. -/
def answersFor (recorded : List Recorded) (predicates : List Predicate) : List LiteralResponse :=
  (recorded.filter fun r => Predicate.sameAll predicates r.predicates).map Recorded.answer

/-- A stub for each of the distinct lists, the last to appear first, with all answers for it. -/
def groups (recorded : List Recorded) : List StubDefinition :=
  (kinds recorded).reverse.map fun predicates =>
    ⟨predicates, (answersFor recorded predicates).map fun answer => .literal answer none, []⟩

variable {recorded : List Recorded} {r : Recorded}

theorem eraseDupsBy_append_singleton {α : Type} (same : α → α → Bool) (items : List α) (a : α) :
    (items ++ [a]).eraseDupsBy same =
      if (items.eraseDupsBy same).any (same a) then items.eraseDupsBy same
      else items.eraseDupsBy same ++ [a] := by
  have step : ∀ (items kept : List α), List.eraseDupsBy.loop same (items ++ [a]) kept =
      if (List.eraseDupsBy.loop same items kept).any (same a) then
        List.eraseDupsBy.loop same items kept
      else List.eraseDupsBy.loop same items kept ++ [a] := by
    intro items
    induction items with
    | nil =>
      intro kept
      simp only [List.nil_append, List.eraseDupsBy.loop, List.any_reverse]
      cases kept.any (same a) <;> simp
    | cons b items ih =>
      intro kept
      rw [List.cons_append, List.eraseDupsBy.loop, List.eraseDupsBy.loop]
      split
      · exact ih kept
      · exact ih (b :: kept)
  exact step items []

theorem kinds_append (recorded : List Recorded) (r : Recorded) :
    kinds (recorded ++ [r]) =
      if (kinds recorded).any (Predicate.sameAll · r.predicates) then kinds recorded
      else kinds recorded ++ [r.predicates] := by
  rw [kinds, List.map_append]
  exact eraseDupsBy_append_singleton _ _ r.predicates

theorem answersFor_append (recorded : List Recorded) (r : Recorded) (predicates : List Predicate) :
    answersFor (recorded ++ [r]) predicates = answersFor recorded predicates ++
      if Predicate.sameAll predicates r.predicates then [r.answer] else [] := by
  rw [answersFor, answersFor, List.filter_append, List.map_append]
  cases same : Predicate.sameAll predicates r.predicates <;> simp [same]

theorem kinds_distinct (recorded : List Recorded) :
    (kinds recorded).Pairwise fun old new => Predicate.sameAll old new = false := by
  induction recorded using List.reverseRecOn with
  | nil => exact .nil
  | append_singleton recorded r ih =>
    rw [kinds_append]
    split
    · exact ih
    · next unknown =>
      refine List.pairwise_append.mpr ⟨ih, List.pairwise_singleton _ _, ?_⟩
      intro old mem new there
      rw [List.mem_singleton.mp there]
      simpa using fun same => unknown (List.any_eq_true.mpr ⟨old, mem, same⟩)

theorem kinds_cover (reflexive : ∀ r ∈ recorded, Predicate.sameAll r.predicates r.predicates = true) :
    ∀ r ∈ recorded, ∃ kind ∈ kinds recorded, Predicate.sameAll kind r.predicates = true := by
  induction recorded using List.reverseRecOn with
  | nil => simp
  | append_singleton recorded last ih =>
    have before := ih fun r mem => reflexive r (List.mem_append_left _ mem)
    intro r mem
    rw [kinds_append]
    rcases List.mem_append.mp mem with earlier | now
    · obtain ⟨kind, there, same⟩ := before r earlier
      split
      · exact ⟨kind, there, same⟩
      · exact ⟨kind, List.mem_append_left _ there, same⟩
    · obtain rfl := List.mem_singleton.mp now
      split
      · next known => exact List.any_eq_true.mp known
      · exact ⟨r.predicates, by simp, reflexive r mem⟩

theorem groups_predicates (recorded : List Recorded) :
    (groups recorded).map StubDefinition.predicates = (kinds recorded).reverse := by
  rw [groups, List.map_map]
  exact List.map_id _

/-- An answer for a list that is known extends its group. -/
theorem groups_append_known
    (known : (kinds recorded).any (Predicate.sameAll · r.predicates) = true) :
    groups (recorded ++ [r]) = (groups recorded).map fun d =>
      if Predicate.sameAll d.predicates r.predicates then
        { d with responses := d.responses ++ [.literal r.answer none] }
      else d := by
  rw [groups, kinds_append, if_pos known, groups, List.map_map]
  refine List.map_congr_left fun predicates _ => ?_
  rw [Function.comp_apply, answersFor_append]
  dsimp only
  split <;> simp

/-- What is not among the distinct lists was never recorded. -/
theorem never_recorded (reflexive : ∀ r ∈ recorded, Predicate.sameAll r.predicates r.predicates = true)
    {predicates : List Predicate}
    (unknown : (kinds recorded).any (Predicate.sameAll · predicates) = false) :
    ∀ r ∈ recorded, Predicate.sameAll predicates r.predicates = false := by
  intro r mem
  by_contra same
  rw [Bool.not_eq_false] at same
  -- the list under which it was recorded would be the same
  obtain ⟨kind, there, known⟩ := kinds_cover reflexive r mem
  have found : (kinds recorded).any (Predicate.sameAll · predicates) = true :=
    List.any_eq_true.mpr ⟨kind, there, Predicate.sameAll_of_third known same⟩
  rw [unknown] at found
  cases found

/-- An answer for a list that is new begins a group, before all others. -/
theorem groups_append_new
    (reflexive : ∀ r' ∈ recorded ++ [r], Predicate.sameAll r'.predicates r'.predicates = true)
    (unknown : (kinds recorded).any (Predicate.sameAll · r.predicates) = false) :
    groups (recorded ++ [r]) = stub r.predicates r.answer :: groups recorded := by
  have fresh : ∀ kind ∈ kinds recorded, Predicate.sameAll kind r.predicates = false := by
    simpa using unknown
  have noAnswers : answersFor recorded r.predicates = [] := by
    rw [answersFor, List.map_eq_nil_iff, List.filter_eq_nil_iff]
    intro other mem
    simp [never_recorded (fun r' mem => reflexive r' (List.mem_append_left _ mem)) unknown other mem]
  have own := reflexive r (by simp)
  rw [groups, kinds_append, if_neg (by simp [unknown]), List.reverse_append, List.reverse_singleton,
    List.singleton_append, List.map_cons, answersFor_append, noAnswers, own]
  refine congrArg₂ List.cons rfl (List.map_congr_left fun predicates mem => ?_)
  rw [answersFor_append, fresh predicates (List.mem_reverse.mp mem)]
  simp

theorem stubs_predicates {stubs : List Stub} (grouped : stubs.map Stub.definition = groups recorded) :
    stubs.map (fun stub => stub.definition.predicates) = (kinds recorded).reverse := by
  rw [← groups_predicates, ← grouped, List.map_map]
  rfl

/-- Of stubs that are listed as groups at most one is for the same predicates as others. -/
theorem single_kind {stubs : List Stub} (grouped : stubs.map Stub.definition = groups recorded)
    (predicates : List Predicate) :
    stubs.Pairwise fun a b => Predicate.sameAll a.definition.predicates predicates = true →
      Predicate.sameAll b.definition.predicates predicates = false := by
  have distinct := List.pairwise_reverse.mpr (kinds_distinct recorded)
  rw [← stubs_predicates grouped, List.pairwise_map] at distinct
  refine distinct.imp fun {a b} different sameA => ?_
  -- two stubs for the same predicates as others would be for the same as one another
  cases sameB : Predicate.sameAll b.definition.predicates predicates with
  | false => rfl
  | true => exact absurd (Predicate.sameAll_of_third sameB sameA) (by simp [different])

/-- What is generated of a well-formed request is the same as itself. -/
theorem predicates_sameAll_self {request : Request} (h : (Json.obj request).WellFormed)
    {generators : List PredicateGenerator} (hg : ∀ g ∈ generators, g.WellFormed) :
    Predicate.sameAll (predicates request generators) (predicates request generators) = true :=
  itemwise_self rfl (fun _ _ _ _ => rfl) fun p mem =>
    Predicate.same_self p (predicates_wellFormed h hg p mem)

end Recording

/-! ### One more answer -/

/-- Where at most one item is wanted, changing the first of them is changing all. -/
theorem modify_findIdx {α : Type} {wanted : α → Bool} {items : List α} (f : α → α)
    (single : items.Pairwise fun a b => wanted a = true → wanted b = false) :
    items.modify (items.findIdx wanted) f = items.map fun a => if wanted a then f a else a := by
  induction items with
  | nil => rfl
  | cons a rest ih =>
    obtain ⟨others, singleRest⟩ := List.pairwise_cons.mp single
    rw [List.findIdx_cons, List.map_cons]
    cases here : wanted a with
    | true =>
      have kept : (rest.map fun b => if wanted b then f b else b) = rest.map id :=
        List.map_congr_left fun b mem => by simp [others b mem here]
      rw [kept, List.map_id]
      rfl
    | false =>
      rw [cond_false, List.modify_succ_cons, ih singleRest]
      rfl

namespace Store

variable {s : Store} {p : Stub} {before rest : List Stub} {d : StubDefinition}

theorem hasPredicates_eq (stub : Stub) (some : d.predicates ≠ []) :
    hasPredicates stub d = Predicate.sameAll stub.definition.predicates d.predicates := by
  rw [hasPredicates]
  cases stub.definition.predicates with
  | nil =>
    cases predicates : d.predicates with
    | nil => exact absurd predicates some
    | cons q qs => rfl
  | cons q qs => rfl

/-- An answer appended behind a stub extends the first stub after it with the same predicates, or
    stands in a new stub directly after it. -/
theorem Sound.apply_append (h : s.Sound) (split : s.stubs = before ++ p :: rest)
    {tree : PredicateTree} (made : PredicateTree.compile s.scripts d.predicates = .ok tree) :
    s.apply (.append p.id d) =
      match rest.find? (hasPredicates · d) with
      | some other => (.ok (.appended other.id),
          ⟨before ++ p :: rest.modify (rest.findIdx (hasPredicates · d)) (extended · d.responses),
            s.nextId + 1, s.cells ++ [.initial], s.scripts⟩)
      | none => (.ok (.inserted s.nextId),
          ⟨before ++ p :: s.newStub d tree :: rest, s.nextId + 1, s.cells ++ [.initial],
            s.scripts⟩) := by
  have place : indexOf { s with nextId := s.nextId + 1, cells := s.cells ++ [.initial] } p.id =
      .ok before.length := h.indexOf_split split
  have joined : s.stubs = (before ++ [p]) ++ rest := by rw [split, List.append_cons]
  have length : before.length + 1 = (before ++ [p]).length := by simp
  have others : s.stubs.drop (before.length + 1) = rest := by rw [joined, length, List.drop_left]
  simp only [apply, enlist_ok made, place, others]
  cases rest.find? (hasPredicates · d) with
  | some other =>
    dsimp only
    rw [joined, length, modify_split, List.append_assoc, List.singleton_append]
  | none =>
    dsimp only
    rw [joined, length, insertIdx_split, List.append_assoc, List.singleton_append]
    rfl

/-- Behind a proxy stand the groups of what was recorded; so they do after one more answer. -/
theorem Sound.append_groups (h : s.Sound) (listed : s.stubs = p :: rest)
    {recorded : List Recorded} (grouped : rest.map Stub.definition = Recording.groups recorded)
    {r : Recorded} (some : r.predicates ≠ [])
    (reflexive : ∀ r' ∈ recorded ++ [r], Predicate.sameAll r'.predicates r'.predicates = true)
    {tree : PredicateTree} (made : PredicateTree.compile s.scripts r.predicates = .ok tree) :
    ∃ rest', (s.apply (.append p.id (Recording.stub r.predicates r.answer))).2.stubs = p :: rest' ∧
      rest'.map Stub.definition = Recording.groups (recorded ++ [r]) := by
  have first : s.stubs = [] ++ p :: rest := listed
  rw [h.apply_append first (d := Recording.stub r.predicates r.answer) made]
  have has (stub : Stub) : hasPredicates stub (Recording.stub r.predicates r.answer) =
      Predicate.sameAll stub.definition.predicates r.predicates := hasPredicates_eq stub some
  simp only [has]
  have any : rest.any (fun stub => Predicate.sameAll stub.definition.predicates r.predicates) =
      (Recording.kinds recorded).any (Predicate.sameAll · r.predicates) := by
    rw [← List.any_reverse (l := Recording.kinds recorded), ← Recording.stubs_predicates grouped,
      List.any_map]
    rfl
  split
  · next other found =>
    have known := List.any_eq_true.mpr ⟨other, List.mem_of_find?_eq_some found, List.find?_some found⟩
    refine ⟨_, rfl, ?_⟩
    have single := Recording.single_kind grouped r.predicates
    rw [modify_findIdx _ single, Recording.groups_append_known (any ▸ known), ← grouped,
      List.map_map, List.map_map]
    refine List.map_congr_left fun stub _ => ?_
    rw [Function.comp_apply, Function.comp_apply]
    split <;> rfl
  · next unfound =>
    have unknown : rest.any (fun stub => Predicate.sameAll stub.definition.predicates r.predicates) =
        false := by
      simpa using List.find?_eq_none.mp unfound
    refine ⟨_, rfl, ?_⟩
    rw [List.map_cons, grouped, Recording.groups_append_new reflexive (any ▸ unknown)]
    rfl

end Store

/-! ### Any number of answers -/

/-- A request that comes at an instant, and what its origin answers if it is asked. -/
structure Answered where
  visit : Visit
  answer : LiteralResponse

/-- What is recorded of a request and its answer under some generators. -/
def Answered.recorded (a : Answered) (generators : List PredicateGenerator) : Recorded :=
  ⟨Recording.predicates a.visit.request generators, a.answer⟩

namespace Imposter

/-- Handle a request whose origin answers, with nothing edited in between. -/
def exchange (i : Imposter) (a : Answered) : Imposter :=
  (i.handle a.visit.now a.visit.request fun _ => ⟨[], .response a.answer, a.visit.latency⟩).2.1

/-- Handle such requests in turn. -/
def exchanges (i : Imposter) (answered : List Answered) : Imposter := answered.foldl exchange i

/-- An open imposter that reaches its origins lists a stub first, and after it the groups of what was
    recorded. -/
structure Records (p : Stub) (scripts : Bool) (recorded : List Recorded) (i : Imposter) :
    Prop where
  opened : i.closed = false
  brokered : i.capabilities.brokered = true
  scripts : i.store.scripts = scripts
  sound : i.store.Sound
  grouped : ∃ rest, i.store.stubs = p :: rest ∧ rest.map Stub.definition = Recording.groups recorded

variable {i : Imposter} {p : Stub} {target : ProxyTarget} {scripts : Bool}
  {recorded : List Recorded}

theorem Records.selects (h : i.Records p scripts recorded) (bare : p.definition.predicates = [])
    (proxy : p.definition.responses = [.proxy target]) (request : Request) :
    ∃ selected, (i.store.resolve request).1 = some selected ∧ selected.stub = p ∧
      selected.response = .proxy target := by
  obtain ⟨rest, listed, -⟩ := h.grouped
  have tree : p.tree = [] := by
    have compiled := (h.sound.compiled p (by simp [listed])).tree
    rw [bare] at compiled
    exact (Except.ok.inj compiled).symm
  have first : Store.firstMatch request i.store.stubs [] = some p := by
    rw [listed, Store.firstMatch, tree]
    rfl
  have answers : (i.store.answerFrom p).1.isSome := by
    rw [Store.answerFrom_eq, proxy]
    rfl
  obtain ⟨selected, found⟩ := Option.isSome_iff_exists.mp answers
  obtain ⟨stub, among⟩ := Store.answerFrom_selection found
  refine ⟨selected, ?_, stub, by simpa [proxy] using among⟩
  rw [Store.resolve, first, found]

/-- Nothing of this is a matter of the states of stubs. -/
theorem Records.states {j : Imposter} (h : i.Records p scripts recorded) (same : i.SameButStore j)
    (states : i.store.SameButStates j.store) : j.Records p scripts recorded := by
  obtain ⟨store, requests, count, rfl⟩ := same
  have sound := states.sound h.sound
  obtain ⟨cells, -, equal⟩ := states
  dsimp only at equal sound
  subst equal
  exact ⟨h.opened, h.brokered, h.scripts, sound, h.grouped⟩

theorem Records.append (h : i.Records p scripts recorded) (always : target.mode = .always)
    {request : Request} {answer : LiteralResponse} {r : Recorded}
    (generated : r = ⟨Recording.predicates request target.generators, answer⟩)
    (some : r.predicates ≠ [])
    (reflexive : ∀ r' ∈ recorded ++ [r], Predicate.sameAll r'.predicates r'.predicates = true)
    {tree : PredicateTree} (made : PredicateTree.compile scripts r.predicates = .ok tree) :
    (i.recordAnswer request ⟨p, target⟩ answer).2.1.Records p scripts (recorded ++ [r]) := by
  have command : recordingCommand request ⟨p, target⟩ answer =
      .some (.append p.id (Recording.stub r.predicates r.answer)) := by
    simp only [recordingCommand, always, generated]
  have edited := Store.apply_edited i.store (.append p.id (Recording.stub r.predicates r.answer))
  obtain ⟨rest, listed, grouped⟩ := h.grouped
  have appended := h.sound.append_groups listed grouped some reflexive (h.scripts ▸ made)
  unfold recordAnswer
  rw [command]
  exact ⟨h.opened, h.brokered, edited.later.scripts.trans h.scripts, edited.sound h.sound, appended⟩

/-- One more answer is recorded in its group. -/
theorem Records.exchange (h : i.Records p scripts recorded) (bare : p.definition.predicates = [])
    (proxy : p.definition.responses = [.proxy target]) (always : target.mode = .always)
    {a : Answered} (some : (a.recorded target.generators).predicates ≠ [])
    (reflexive : ∀ r ∈ recorded ++ [a.recorded target.generators],
      Predicate.sameAll r.predicates r.predicates = true)
    {tree : PredicateTree}
    (made : PredicateTree.compile scripts (a.recorded target.generators).predicates = .ok tree) :
    (i.exchange a).Records p scripts (recorded ++ [a.recorded target.generators]) := by
  obtain ⟨selected, found, stub, response⟩ := h.selects bare proxy a.visit.request
  have handled := (handle_proxy h.opened h.brokered a.visit.now found response
    (fun _ => ⟨[], .response a.answer, a.visit.latency⟩) rfl rfl).2
  have asked := asked_same i a.visit.now a.visit.request
  have appended := (h.states asked.1 asked.2).append always rfl some reflexive made
  rw [stub] at handled
  rw [Imposter.exchange, handled]
  have kept := remember_same ((i.asked a.visit.now a.visit.request).recordAnswer a.visit.request
    ⟨p, target⟩ a.answer).2.1 p a.visit.now a.visit.request a.answer
  exact appended.states kept.1 kept.2

/-- Any number of answers is recorded, each in its group. -/
theorem Records.exchanges (h : i.Records p scripts recorded) (bare : p.definition.predicates = [])
    (proxy : p.definition.responses = [.proxy target]) (always : target.mode = .always)
    {answered : List Answered}
    (made : ∀ a ∈ answered, (a.recorded target.generators).predicates ≠ [] ∧
      ∃ tree, PredicateTree.compile scripts (a.recorded target.generators).predicates = .ok tree)
    (reflexive : ∀ r ∈ recorded ++ answered.map (·.recorded target.generators),
      Predicate.sameAll r.predicates r.predicates = true) :
    (i.exchanges answered).Records p scripts
      (recorded ++ answered.map (·.recorded target.generators)) := by
  induction answered generalizing i recorded with
  | nil =>
    rw [List.map_nil, List.append_nil]
    exact h
  | cons a answered ih =>
    obtain ⟨some, tree, compiles⟩ := made a List.mem_cons_self
    rw [List.map_cons, List.append_cons] at reflexive ⊢
    have step := h.exchange bare proxy always some
      (fun r mem => reflexive r (List.mem_append_left _ mem)) compiles
    exact ih step (fun b mem => made b (List.mem_cons_of_mem _ mem)) reflexive

/-- However an imposter has come about whose only stub is a proxy that records always and has no
    predicates: after any requests, each with an answer of its origin and with generated predicates
    that compile, the proxy is followed by a stub for each of the distinct lists of predicates, the
    last to appear first.  Each of them has exactly the answers that came for its list, in order of
    arrival. -/
theorem proxyAlways_groups {c : Capabilities} (reachable : Reachable c i) (opened : i.closed = false)
    (brokered : i.capabilities.brokered = true) (only : i.store.stubs = [p])
    (bare : p.definition.predicates = []) (proxy : p.definition.responses = [.proxy target])
    (always : target.mode = .always) (wellFormed : target.WellFormed) (answered : List Answered)
    (requests : ∀ a ∈ answered, (Json.obj a.visit.request).WellFormed)
    (made : ∀ a ∈ answered, (a.recorded target.generators).predicates ≠ [] ∧
      ∃ tree, PredicateTree.compile c.scripts (a.recorded target.generators).predicates = .ok tree) :
    ∃ rest, (i.exchanges answered).store.stubs = p :: rest ∧
      rest.map Stub.definition =
        Recording.groups (answered.map fun a => a.recorded target.generators) := by
  have start : i.Records p c.scripts [] :=
    ⟨opened, brokered, reachable.leads.later.scripts, reachable.sound, [], only, rfl⟩
  have reflexive : ∀ r ∈ [] ++ answered.map (·.recorded target.generators),
      Predicate.sameAll r.predicates r.predicates = true := by
    intro r mem
    obtain ⟨a, there, rfl⟩ := List.mem_map.mp mem
    exact Recording.predicates_sameAll_self (requests a there) wellFormed.generators
  exact (start.exchanges bare proxy always made reflexive).grouped

/-- An imposter whose only stub is a proxy without predicates. -/
def forwarding (target : ProxyTarget) : Imposter :=
  { proxying with store := ⟨[⟨0, ⟨[], [.proxy target], []⟩, [], 0⟩], 1, [.initial], false⟩ }

theorem forwarding_reachable (target : ProxyTarget) :
    Reachable Imposter.brokerOnly (forwarding target) :=
  ⟨⟨4545, "http", none, false, false, none, [⟨[], [.proxy target], []⟩], none, []⟩,
    forwarding target, [], rfl, rfl⟩

/-- A proxy that records every answer under the path of its request. -/
def byPath : ProxyTarget :=
  ⟨"http://origin", .always, [⟨[("path", .bool true)], none, .default⟩], []⟩

/-- A request for a path, and the status of the answer. -/
def answeredAt (path : String) (status : UInt16) : Answered :=
  ⟨⟨⟨0, 0⟩, [("path", .str path)], ⟨0⟩⟩, { LiteralResponse.plain with status := status }⟩

/-- Two paths in turn, the first of them twice. -/
def threePaths : List Answered := [answeredAt "/a" 201, answeredAt "/b" 202, answeredAt "/a" 203]

theorem threePaths_grouped :
    ∃ rest, ((forwarding byPath).exchanges threePaths).store.stubs =
        ⟨0, ⟨[], [.proxy byPath], []⟩, [], 0⟩ :: rest ∧
      rest.map (fun stub => stub.definition.responses) =
        [[.literal { LiteralResponse.plain with status := 202 } none],
          [.literal { LiteralResponse.plain with status := 201 } none,
            .literal { LiteralResponse.plain with status := 203 } none]] := by
  have wellFormed : byPath.WellFormed := by
    refine ⟨?_, trivial⟩
    intro g mem
    rw [List.mem_singleton.mp mem]
    exact ⟨by simp [Json.WellFormed, Json.WellFormedMembers, Dict.Sorted, Dict.Above],
      Recording.default_wellFormed⟩
  have requests : ∀ a ∈ threePaths, (Json.obj a.visit.request).WellFormed := by
    simp [threePaths, answeredAt, Json.WellFormed, Json.WellFormedMembers, Dict.Sorted, Dict.Above]
  have made : ∀ a ∈ threePaths, (a.recorded byPath.generators).predicates ≠ [] ∧
      ∃ tree, PredicateTree.compile Imposter.brokerOnly.scripts
        (a.recorded byPath.generators).predicates = .ok tree := by
    have one (path : String) (status : UInt16) :
        ((answeredAt path status).recorded byPath.generators).predicates =
          [.leaf .deepEquals [("path", .str path)] .default] := rfl
    intro a mem
    simp only [threePaths, List.mem_cons, List.not_mem_nil, or_false] at mem
    rcases mem with rfl | rfl | rfl
    all_goals
      rw [one]
      exact ⟨by simp, _, rfl⟩
  obtain ⟨rest, listed, grouped⟩ := proxyAlways_groups (forwarding_reachable byPath) rfl rfl rfl rfl
    rfl rfl wellFormed threePaths requests made
  have responses := congrArg (List.map StubDefinition.responses) grouped
  rw [List.map_map] at responses
  exact ⟨rest, listed, responses⟩

end Imposter

end VirtualService
