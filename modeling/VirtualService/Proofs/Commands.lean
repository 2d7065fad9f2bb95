/-
  VirtualService/Proofs/Commands.lean
  ===================================
  **What a command comes to.**

  A command is refused, or it edits one place of the list.  Whether and why it is
  refused is said by `Store.refusal`, which knows of the faults in the definitions and
  of what is listed, and not of how commands are applied; what is made of the list
  otherwise is said by `Store.Makes`, with one case for each way in which a command
  can succeed.  The commands are gone through once (`Store.Sound.comesTo`); that a
  refused command changes nothing (`refused_changes_nothing`) and that a successful
  one leaves the other stubs alone (`edits_one_place`) follow from the two
  descriptions.  Records in a definition are dropped whenever it is loaded
  (`replaced_without_records`).
-/
import VirtualService.Proofs.Faults
import VirtualService.Proofs.InFlight

namespace VirtualService

/-! ### Commands that are refused -/

/-- The identity of the stub from which a command starts. -/
def StoreCommand.named? : StoreCommand → Option Nat
  | .remove id | .replace id _ | .record id _ | .append id _ => some id
  | .insert _ _ | .removeAt _ | .replaceAll _ => none

namespace Store

/-- What a command refers to and is not there. -/
def missing (s : Store) : StoreCommand → Option StoreError
  | .removeAt index => if index < s.stubs.length then none else some (.indexOutOfBounds index)
  | command => command.named?.bind fun id => if id ∈ s.ids then none else some (.stubNotFound id)

/-- Why a command is refused, if it is: for the first fault of the first definition that has one, or
    else for what it refers to and is not there. -/
def refusal (s : Store) (command : StoreCommand) : Option StoreError :=
  match command.definitions.findSome? fun d => (d.faults s.scripts).head? with
  | some cause => some (.definition cause)
  | none => s.missing command

/-! ### Commands that succeed -/

/-- The list that a command makes of the stubs, and the change that it reports. -/
inductive Makes (s : Store) : StoreCommand → StoreChange → List Stub → Prop
  /-- A new stub stands at the place that is asked for, or at the end. -/
  | inserted {d : StubDefinition} {position : Option Nat} {tree : PredicateTree}
      {earlier later : List Stub}
      (compiled : PredicateTree.compile s.scripts d.predicates = .ok tree)
      (split : s.stubs = earlier ++ later)
      (place : earlier.length = min (position.getD s.stubs.length) s.stubs.length) :
      Makes s (.insert d position) (.inserted s.nextId) (earlier ++ s.newStub d tree :: later)
  | removed {stub : Stub} {earlier later : List Stub} (split : s.stubs = earlier ++ stub :: later) :
      Makes s (.remove stub.id) (.removed stub.id) (earlier ++ later)
  | removedAt {stub : Stub} {earlier later : List Stub} (split : s.stubs = earlier ++ stub :: later) :
      Makes s (.removeAt earlier.length) (.removed stub.id) (earlier ++ later)
  /-- A stub has another definition, and its identity and cell. -/
  | replaced {d : StubDefinition} {tree : PredicateTree} {stub : Stub} {earlier later : List Stub}
      (compiled : PredicateTree.compile s.scripts d.predicates = .ok tree)
      (split : s.stubs = earlier ++ stub :: later) :
      Makes s (.replace stub.id d) (.replaced stub.id)
        (earlier ++ ⟨stub.id, { d with records := [] }, tree, stub.cell⟩ :: later)
  /-- All stubs are new, with identities and cells in a row. -/
  | replacedAll {ds : List StubDefinition} {stubs : List Stub}
      (definitions : stubs.map Stub.definition = ds.map fun d => { d with records := [] })
      (ids : stubs.map Stub.id = List.range' s.nextId ds.length)
      (cells : stubs.map Stub.cell = List.range' s.cells.length ds.length)
      (compiled : ∀ stub ∈ stubs, stub.Compiled s.scripts) :
      Makes s (.replaceAll ds) (.replacedAll (stubs.map Stub.id)) stubs
  /-- A new stub stands directly before another. -/
  | recorded {d : StubDefinition} {tree : PredicateTree} {stub : Stub} {earlier later : List Stub}
      (compiled : PredicateTree.compile s.scripts d.predicates = .ok tree)
      (split : s.stubs = earlier ++ stub :: later) :
      Makes s (.record stub.id d) (.inserted s.nextId)
        (earlier ++ s.newStub d tree :: stub :: later)
  /-- The first stub behind another that has the same predicates, and some, has more responses. -/
  | extended {d : StubDefinition} {tree : PredicateTree} {stub known : Stub}
      {earlier between later : List Stub}
      (compiled : PredicateTree.compile s.scripts d.predicates = .ok tree)
      (split : s.stubs = earlier ++ stub :: (between ++ known :: later))
      (others : ∀ other ∈ between, hasPredicates other d = false)
      (same : hasPredicates known d = true) :
      Makes s (.append stub.id d) (.appended known.id)
        (earlier ++ stub :: (between ++ { known with definition := { known.definition with
          responses := known.definition.responses ++ d.responses } } :: later))
  /-- There is no such stub, and a new one stands directly behind the other. -/
  | appended {d : StubDefinition} {tree : PredicateTree} {stub : Stub} {earlier later : List Stub}
      (compiled : PredicateTree.compile s.scripts d.predicates = .ok tree)
      (split : s.stubs = earlier ++ stub :: later)
      (others : ∀ other ∈ later, hasPredicates other d = false) :
      Makes s (.append stub.id d) (.inserted s.nextId)
        (earlier ++ stub :: s.newStub d tree :: later)

/-! ### Each command is refused or succeeds -/

variable {s : Store} {command : StoreCommand} {d : StubDefinition} {id : Nat} {tree : PredicateTree}

theorem refusal_faulty (carried : command.definitions = [d]) {cause : DefinitionError}
    (fails : PredicateTree.compile s.scripts d.predicates = .error cause) :
    s.refusal command = some (.definition cause) := by
  rw [refusal, carried, List.findSome?_singleton, StubDefinition.compile_eq_error.mp fails]

theorem refusal_faultless (faultless : ∀ d ∈ command.definitions, d.faults s.scripts = []) :
    s.refusal command = s.missing command := by
  have nothing : (command.definitions.findSome? fun d => (d.faults s.scripts).head?) = none := by
    rw [List.findSome?_eq_none_iff]
    intro d mem
    rw [faultless d mem, List.head?_nil]
  rw [refusal, nothing]

theorem refusal_compiled (carried : command.definitions = [d])
    (compiled : PredicateTree.compile s.scripts d.predicates = .ok tree) :
    s.refusal command = s.missing command := by
  refine refusal_faultless fun other mem => ?_
  rw [carried, List.mem_singleton] at mem
  rw [mem, ← StubDefinition.compile_eq_ok]
  exact ⟨tree, compiled⟩

theorem missing_named (named : command.named? = some id) :
    s.missing command = if id ∈ s.ids then none else some (.stubNotFound id) := by
  cases command with
  | insert | removeAt | replaceAll => cases named
  | remove | replace | record | append =>
    cases named
    rfl

theorem enlistAll_fault (s : Store) (ds : List StubDefinition) :
    Except.fault? (s.enlistAll ds).1 = ds.findSome? fun d => (d.faults s.scripts).head? := by
  -- the first definition uses up an identity, which no other compilation depends on
  induction ds generalizing s with
  | nil => rfl
  | cons d ds ih =>
    rw [List.findSome?_cons]
    cases made : PredicateTree.compile s.scripts d.predicates with
    | error e =>
      rw [StubDefinition.compile_eq_error.mp made]
      simp only [enlistAll, enlist_error made, Except.fault?]
    | ok tree =>
      have rest := ih { s with nextId := s.nextId + 1, cells := s.cells ++ [.initial] }
      rw [StubDefinition.compile_eq_ok.mp ⟨tree, made⟩, List.head?_nil]
      simp only [enlistAll, enlist_ok made]
      dsimp only at rest
      rw [← rest]
      generalize enlistAll _ ds = others
      obtain ⟨(e | stubs), t⟩ := others <;> rfl

/-- What a command comes to: it is refused and the list stays as it is, or it makes what it is to
    make. -/
inductive ComesTo (s : Store) (command : StoreCommand) : Prop
  | refused (e : StoreError) (reason : s.refusal command = some e)
      (fails : (s.apply command).1 = .error e) (kept : (s.apply command).2.stubs = s.stubs)
  | made (change : StoreChange) (allowed : s.refusal command = none)
      (works : (s.apply command).1 = .ok change)
      (list : s.Makes command change (s.apply command).2.stubs)

/-- A command that carries one definition and starts from one stub: what is left to show is how it
    fails if the definition has a fault, how it fails if the stub is not there, and what it makes of
    the list around the stub. -/
theorem comesTo_named (carried : command.definitions = [d]) (named : command.named? = some id)
    (faulty : ∀ cause, PredicateTree.compile s.scripts d.predicates = .error cause →
      (s.apply command).1 = .error (.definition cause) ∧ (s.apply command).2.stubs = s.stubs)
    (unlisted : ∀ tree, PredicateTree.compile s.scripts d.predicates = .ok tree → id ∉ s.ids →
      (s.apply command).1 = .error (.stubNotFound id) ∧ (s.apply command).2.stubs = s.stubs)
    (works : ∀ tree earlier stub later, PredicateTree.compile s.scripts d.predicates = .ok tree →
      s.stubs = earlier ++ stub :: later → stub.id = id →
        ∃ change, (s.apply command).1 = .ok change ∧
          s.Makes command change (s.apply command).2.stubs) : s.ComesTo command := by
  cases made : PredicateTree.compile s.scripts d.predicates with
  | error cause =>
    obtain ⟨fails, kept⟩ := faulty cause made
    exact .refused _ (refusal_faulty carried made) fails kept
  | ok tree =>
    have reason := (refusal_compiled carried made).trans (missing_named named)
    by_cases listed : id ∈ s.ids
    · obtain ⟨earlier, stub, later, split, same⟩ := split_of_listed listed
      obtain ⟨change, ok, list⟩ := works tree earlier stub later made split same
      exact .made change (reason.trans (if_pos listed)) ok list
    · obtain ⟨fails, kept⟩ := unlisted tree made listed
      exact .refused _ (reason.trans (if_neg listed)) fails kept

theorem comesTo_insert (s : Store) (d : StubDefinition) (position : Option Nat) :
    s.ComesTo (.insert d position) := by
  cases made : PredicateTree.compile s.scripts d.predicates with
  | error e =>
    refine .refused (.definition e) (refusal_faulty rfl made) ?_ ?_ <;>
      simp only [apply, enlist_error made]
  | ok tree =>
    obtain ⟨earlier, later, split, place⟩ : ∃ earlier later, s.stubs = earlier ++ later ∧
        earlier.length = min (position.getD s.stubs.length) s.stubs.length :=
      ⟨s.stubs.take _, s.stubs.drop _, (List.take_append_drop _ _).symm,
        by rw [List.length_take, Nat.min_assoc, Nat.min_self]⟩
    have inserted : s.stubs.insertIdx (min (position.getD s.stubs.length) s.stubs.length)
        (s.newStub d tree) = earlier ++ s.newStub d tree :: later := by
      rw [← place, split, insertIdx_split]
    refine .made (.inserted s.nextId) (refusal_compiled rfl made) ?_ ?_
    · simp only [apply, enlist_ok made]
      rfl
    · simp only [apply, enlist_ok made, inserted]
      exact .inserted made split place

theorem Sound.comesTo_remove (h : s.Sound) (id : Nat) : s.ComesTo (.remove id) := by
  have reason : s.refusal (.remove id) = s.missing (.remove id) := refusal_faultless nofun
  rw [missing_named rfl] at reason
  by_cases listed : id ∈ s.ids
  · obtain ⟨earlier, p, later, split, rfl⟩ := split_of_listed listed
    have place := h.indexOf_split split
    have erased : s.stubs.eraseIdx earlier.length = earlier ++ later := by
      rw [split, List.eraseIdx_append_of_length_le (Nat.le_refl _), Nat.sub_self]
      rfl
    refine .made (.removed p.id) (reason.trans (if_pos listed)) ?_ ?_
    · simp only [apply, place]
    · simp only [apply, place, erased]
      exact .removed split
  · have nowhere := indexOf_unlisted listed
    refine .refused (.stubNotFound id) (reason.trans (if_neg listed)) ?_ ?_ <;>
      simp only [apply, nowhere]

theorem comesTo_removeAt (s : Store) (index : Nat) : s.ComesTo (.removeAt index) := by
  have reason : s.refusal (.removeAt index) = s.missing (.removeAt index) := refusal_faultless nofun
  rw [missing] at reason
  cases there : s.stubs[index]? with
  | none =>
    have beyond := Nat.not_lt.mpr (List.getElem?_eq_none_iff.mp there)
    refine .refused (.indexOutOfBounds index) (reason.trans (if_neg beyond)) ?_ ?_ <;>
      simp only [apply, there]
  | some p =>
    obtain ⟨inside, here⟩ := List.getElem?_eq_some_iff.mp there
    have split : s.stubs = s.stubs.take index ++ p :: s.stubs.drop (index + 1) := by
      rw [← here, List.getElem_cons_drop, List.take_append_drop]
    have place : (s.stubs.take index).length = index := by
      rw [List.length_take, Nat.min_eq_left (Nat.le_of_lt inside)]
    refine .made (.removed p.id) (reason.trans (if_pos inside)) ?_ ?_
    · simp only [apply, there]
    · simp only [apply, there, List.eraseIdx_eq_take_drop_succ]
      have removed := Makes.removedAt split
      rwa [place] at removed

theorem Sound.comesTo_replace (h : s.Sound) (id : Nat) (d : StubDefinition) :
    s.ComesTo (.replace id d) := by
  refine comesTo_named rfl rfl ?_ ?_ ?_
  · intro cause fails
    simp only [apply, fails, and_self]
  · intro tree made unlisted
    simp only [apply, made, indexOf_unlisted unlisted, and_self]
  · rintro tree earlier p later made split rfl
    have place := h.indexOf_split split
    refine ⟨.replaced p.id, ?_, ?_⟩
    · simp only [apply, made, place]
    · have changed := modify_split earlier (p :: later) 0 fun stub =>
        { stub with definition := { d with records := [] }, tree := tree }
      simp only [apply, made, place]
      rw [split]
      exact changed ▸ .replaced made split

theorem comesTo_replaceAll (s : Store) (ds : List StubDefinition) : s.ComesTo (.replaceAll ds) := by
  have fault := enlistAll_fault s ds
  have reason : s.refusal (.replaceAll ds) =
      (Except.fault? (s.enlistAll ds).1).map StoreError.definition := by
    rw [refusal, StoreCommand.definitions, ← fault]
    cases Except.fault? (s.enlistAll ds).1 <;> rfl
  rcases enlistAll_cases s ds with ⟨e, issued, cells, fails, -⟩ | ⟨stubs, t, works, enlisted⟩
  · rw [fails] at reason
    refine .refused (.definition e) reason ?_ ?_ <;> simp only [apply, fails]
  · rw [works] at reason
    refine .made (.replacedAll (stubs.map Stub.id)) reason ?_ ?_
    · simp only [apply, works]
    · simp only [apply, works]
      exact .replacedAll enlisted.definitions enlisted.ids enlisted.unshared enlisted.compiled

/-- The identity and the cell of a new stub are given out before it turns out that the stub from which
    the command starts is not there. -/
theorem indexOf_unlisted_issued (unlisted : id ∉ s.ids) :
    indexOf { s with nextId := s.nextId + 1, cells := s.cells ++ [.initial] } id =
      .error (.stubNotFound id) :=
  indexOf_unlisted unlisted

theorem Sound.comesTo_record (h : s.Sound) (id : Nat) (d : StubDefinition) :
    s.ComesTo (.record id d) := by
  refine comesTo_named rfl rfl ?_ ?_ ?_
  · intro cause fails
    simp only [apply, enlist_error fails, and_self]
  · intro tree made unlisted
    simp only [apply, enlist_ok made, indexOf_unlisted_issued unlisted, and_self]
  · rintro tree earlier p later made split rfl
    rw [h.apply_record split made]
    exact ⟨.inserted s.nextId, rfl, .recorded made split⟩

theorem Sound.comesTo_append (h : s.Sound) (id : Nat) (d : StubDefinition) :
    s.ComesTo (.append id d) := by
  refine comesTo_named rfl rfl ?_ ?_ ?_
  · intro cause fails
    simp only [apply, enlist_error fails, and_self]
  · intro tree made unlisted
    simp only [apply, enlist_ok made, indexOf_unlisted_issued unlisted, and_self]
  · rintro tree earlier p later made split rfl
    have applied := h.apply_append split made
    cases found : later.find? (hasPredicates · d) with
    | some known =>
      rw [found] at applied
      obtain ⟨same, between, rest, rfl, passed⟩ := List.find?_eq_some_iff_append.mp found
      have others : ∀ other ∈ between, hasPredicates other d = false := by simpa using passed
      dsimp only at applied
      rw [modify_first (extended · d.responses) others same] at applied
      rw [applied]
      exact ⟨.appended known.id, rfl, .extended made split others same⟩
    | none =>
      rw [found] at applied
      have others : ∀ other ∈ later, hasPredicates other d = false := by
        simpa using List.find?_eq_none.mp found
      rw [applied]
      exact ⟨.inserted s.nextId, rfl, .appended made split others⟩

theorem Sound.comesTo (h : s.Sound) (command : StoreCommand) : s.ComesTo command := by
  cases command with
  | insert d position => exact comesTo_insert s d position
  | remove id => exact h.comesTo_remove id
  | removeAt index => exact comesTo_removeAt s index
  | replace id d => exact h.comesTo_replace id d
  | replaceAll ds => exact comesTo_replaceAll s ds
  | record before d => exact h.comesTo_record before d
  | append after d => exact h.comesTo_append after d

/-! ### What no command changes -/

/-- A command changes no state; the cells that it adds hold the first state. -/
theorem stateAt_apply (s : Store) (command : StoreCommand) (cell : Nat) :
    (s.apply command).2.stateAt cell = s.stateAt cell := by
  have edited := apply_edited s command
  by_cases held : cell < s.cells.length
  · exact edited.stateAt_eq held
  · have new := Nat.not_lt.mp held
    rw [edited.stateAt_new new, stateAt, List.getElem?_eq_none new]
    rfl

theorem filter_other (stub : Stub) (named : stub.id = id) (earlier later : List Stub) :
    (earlier ++ stub :: later).filter (·.id ≠ id) = (earlier ++ later).filter (·.id ≠ id) := by
  rw [List.filter_append, List.filter_cons_of_neg (by simpa using named), List.filter_append]

/-- The stubs with another identity stay as they are and in their order. -/
theorem Makes.others {change : StoreChange} {stubs : List Stub} (h : s.Makes command change stubs)
    (named : change.id? = some id) :
    stubs.filter (·.id ≠ id) = s.stubs.filter (·.id ≠ id) := by
  cases h with
  | replacedAll => cases named
  | @inserted d _ tree earlier later compiled split place =>
    cases named
    rw [split]
    exact filter_other (s.newStub d tree) rfl earlier later
  | @removed stub earlier later split | @removedAt stub earlier later split =>
    cases named
    rw [split]
    exact (filter_other stub rfl earlier later).symm
  | @replaced d tree stub earlier later compiled split =>
    cases named
    have before := filter_other stub rfl earlier later
    rw [split, before]
    exact filter_other _ (by rfl) earlier later
  | @recorded d tree stub earlier later compiled split =>
    cases named
    rw [split]
    exact filter_other (s.newStub d tree) rfl earlier (stub :: later)
  | @extended d tree stub known earlier between later compiled split others same =>
    cases named
    -- what stands around the stub that is extended
    have around (middle : Stub) : earlier ++ stub :: (between ++ middle :: later) =
        (earlier ++ stub :: between) ++ middle :: later := by simp
    have before := filter_other known rfl (earlier ++ stub :: between) later
    rw [split, around, around, before]
    exact filter_other (Store.extended known d.responses) rfl (earlier ++ stub :: between) later
  | @appended d tree stub earlier later compiled split others =>
    cases named
    rw [split, List.append_cons, List.append_cons earlier stub later]
    exact filter_other (s.newStub d tree) rfl (earlier ++ [stub]) later

theorem refusal_eq_some {e : StoreError} : s.refusal command = some e ↔
    (∃ before d after cause, command.definitions = before ++ d :: after ∧
        (∀ other ∈ before, ∃ tree, PredicateTree.compile s.scripts other.predicates = .ok tree) ∧
        PredicateTree.compile s.scripts d.predicates = .error cause ∧ e = .definition cause) ∨
      (∀ d ∈ command.definitions, ∃ tree, PredicateTree.compile s.scripts d.predicates = .ok tree) ∧
        s.missing command = some e := by
  simp only [StubDefinition.compile_eq_ok, StubDefinition.compile_eq_error]
  constructor
  · intro refused
    rw [refusal] at refused
    split at refused
    · next cause first =>
      obtain ⟨before, d, after, split, fault, earlier⟩ := List.findSome?_eq_some_iff.mp first
      exact .inl ⟨before, d, after, cause, split,
        fun other mem => List.head?_eq_none_iff.mp (earlier other mem), fault,
        (Option.some.inj refused).symm⟩
    · next first =>
      exact .inr ⟨fun d mem => List.head?_eq_none_iff.mp (List.findSome?_eq_none_iff.mp first d mem),
        refused⟩
  · rintro (⟨before, d, after, cause, split, earlier, fault, rfl⟩ | ⟨faultless, missing⟩)
    · have first : (command.definitions.findSome? fun d => (d.faults s.scripts).head?) =
          some cause :=
        List.findSome?_eq_some_iff.mpr ⟨before, d, after, split, fault,
          fun other mem => List.head?_eq_none_iff.mpr (earlier other mem)⟩
      rw [refusal, first]
    · rw [refusal_faultless faultless, missing]

/-! ### In any store -/

/-- However a store has come about: a command fails if and only if some definition that it carries
    does not compile, with the fault of the first such definition, or if all compile and the stub or
    the place that it refers to is not there.  A definition fails to compile with the first fault
    that a walk over its predicates finds, at whatever depth.  A command that fails leaves the list
    as it is, and all states. -/
theorem refused_changes_nothing (scripts : Bool) (events : List StoreEvent)
    (command : StoreCommand) :
    let s := (empty scripts).run events
    (∀ e, (s.apply command).1 = .error e ↔
      (∃ before d after cause, command.definitions = before ++ d :: after ∧
          (∀ other ∈ before, ∃ tree, PredicateTree.compile scripts other.predicates = .ok tree) ∧
          PredicateTree.compile scripts d.predicates = .error cause ∧ e = .definition cause) ∨
        (∀ d ∈ command.definitions, ∃ tree, PredicateTree.compile scripts d.predicates = .ok tree) ∧
          s.missing command = some e) ∧
    (∀ (d : StubDefinition) (cause : DefinitionError),
      PredicateTree.compile scripts d.predicates = .error cause ↔
        (d.faults scripts).head? = some cause) ∧
    ∀ e, (s.apply command).1 = .error e → (s.apply command).2.stubs = s.stubs ∧
      ∀ cell, (s.apply command).2.stateAt cell = s.stateAt cell := by
  intro s
  have sound : s.Sound := (sound_empty scripts).run events
  have injector : s.scripts = scripts := (run_later (empty scripts) events).scripts
  refine ⟨fun e => ?_, fun d cause => StubDefinition.compile_eq_error, fun e fails => ?_⟩
  · rw [← injector, ← refusal_eq_some]
    cases sound.comesTo command with
    | refused e' reason fails kept => rw [fails, reason, Except.error.injEq, Option.some.injEq]
    | made change allowed works list => simp [works, allowed]
  · refine ⟨?_, stateAt_apply s command⟩
    cases sound.comesTo command with
    | refused e' reason fails' kept => exact kept
    | made change allowed works list =>
      rw [works] at fails
      cases fails

/-- However a store has come about: a command that succeeds makes of the list what it is to make
    (`Makes`).  The stubs other than the one that the reported change names stay as they are and in
    their order, and so does the state of every stub; a stub that is new has an identity that was
    never given out, and the first state. -/
theorem edits_one_place (scripts : Bool) (events : List StoreEvent) {command : StoreCommand}
    {change : StoreChange}
    (ok : (((empty scripts).run events).apply command).1 = .ok change) :
    let s := (empty scripts).run events
    let t := (s.apply command).2
    s.Makes command change t.stubs ∧
    (∀ id, change.id? = some id → t.stubs.filter (·.id ≠ id) = s.stubs.filter (·.id ≠ id)) ∧
    (∀ stub ∈ s.stubs, stub.id < s.nextId ∧ t.stateAt stub.cell = s.stateAt stub.cell) ∧
    ∀ stub ∈ t.stubs, s.nextId ≤ stub.id → t.stateAt stub.cell = .initial := by
  intro s t
  have sound : s.Sound := (sound_empty scripts).run events
  cases sound.comesTo command with
  | refused e reason fails kept =>
    rw [ok] at fails
    cases fails
  | made change' allowed works list =>
    rw [ok] at works
    cases works
    refine ⟨list, fun id named => list.others named, fun stub mem => ?_, fun stub mem new => ?_⟩
    · exact ⟨sound.issued stub mem, stateAt_apply s command stub.cell⟩
    · have edited := apply_edited s command
      rcases edited.later.fate stub mem with ⟨old, listed, same, -⟩ | ⟨-, newCell⟩
      · exact absurd (same ▸ sound.issued old listed) (Nat.not_lt.mpr new)
      · exact edited.stateAt_new newCell

/-- A stub for requests with a body. -/
def withBody : StubDefinition :=
  ⟨[.leaf .presence [("body", .bool true)] .default], [.literal .plain none], []⟩

/-- A stub for all requests, one for those with a body, and an answer from the first. -/
def oneAnswered : List StoreEvent := [.edit (.replaceAll [twoResponses, withBody]), .answer []]

theorem withBody_extended :
    let s := (empty false).run oneAnswered
    let t := (s.apply (.append 0 withBody)).2
    (s.apply (.append 0 withBody)).1 = .ok (.appended 1) ∧
    t.stubs.map (fun stub => stub.definition.responses.length) = [2, 2] ∧
    t.stubs.filter (·.id ≠ 1) = s.stubs.filter (·.id ≠ 1) ∧
    ∀ stub ∈ s.stubs, t.stateAt stub.cell = s.stateAt stub.cell := by
  intro s t
  have ok : (s.apply (.append 0 withBody)).1 = .ok (.appended 1) := rfl
  obtain ⟨-, others, states, -⟩ := edits_one_place false oneAnswered ok
  exact ⟨ok, rfl, others 1 rfl, fun stub mem => (states stub mem).2⟩

/-- A stub as an export shows it, with a request that it has answered. -/
def withRecord : StubDefinition :=
  ⟨[], [.literal .plain none], [⟨⟨0, 0⟩, [], .plain⟩]⟩

/-- The definitions of a new list are not the given ones to the last: the records are dropped. -/
theorem replaced_without_records :
    let s := ((empty false).apply (.replaceAll [withRecord])).2
    ((empty false).apply (.replaceAll [withRecord])).1 = .ok (.replacedAll [0]) ∧
      s.stubs.map Stub.definition ≠ [withRecord] := by
  refine ⟨rfl, fun same => ?_⟩
  have records := congrArg (List.map fun d => d.records.length) same
  exact absurd records (by decide)

end Store

end VirtualService
