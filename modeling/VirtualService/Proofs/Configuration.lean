/-
  VirtualService/Proofs/Configuration.lean
  ========================================
  **What validation promises about building.**

  Two passes over a configuration have to agree.  Validation searches the
  predicates for scripts; building compiles them and refuses a script where scripts
  may not decide.  Both are tied to one relation on predicates: a script stands
  within a predicate, at whatever depth (`Predicate.Within`).  Validation also looks
  for ports taken twice, before a registry refuses them one by one.

  What building comes to is said first for one imposter (`Imposter.build_cases`) and
  then, by induction on the definitions, for a registry that has room for all of
  them (`EngineConfig.createAll_cases`).
-/
import VirtualService.Config
import VirtualService.Proofs.Decoding
import VirtualService.Proofs.Store

namespace VirtualService

/-! ### Scripts within predicates -/

namespace Predicate

/-- A predicate stands within another, at some depth. -/
inductive Within (p : Predicate) : Predicate → Prop
  | self : Within p p
  | allOf {child : Predicate} {children : List Predicate} (mem : child ∈ children)
      (deep : Within p child) : Within p (.allOf children)
  | anyOf {child : Predicate} {children : List Predicate} (mem : child ∈ children)
      (deep : Within p child) : Within p (.anyOf children)
  | negation {child : Predicate} (deep : Within p child) : Within p (.negation child)

theorem anyUsesScript_eq (ps : List Predicate) : anyUsesScript ps = ps.any usesScript := by
  induction ps with
  | nil => rfl
  | cons p rest ih => rw [anyUsesScript, ih, List.any_cons]

theorem usesScript_of_within {source : String} {p : Predicate}
    (within : (Predicate.script source).Within p) : p.usesScript = true := by
  induction within with
  | self => rfl
  | allOf mem _ ih =>
    rw [usesScript, anyUsesScript_eq]
    exact List.any_eq_true.mpr ⟨_, mem, ih⟩
  | anyOf mem _ ih =>
    rw [usesScript, anyUsesScript_eq]
    exact List.any_eq_true.mpr ⟨_, mem, ih⟩
  | negation _ ih => rwa [usesScript]

mutual

theorem exists_within : ∀ {p : Predicate}, p.usesScript = true →
    ∃ source, (Predicate.script source).Within p
  | .leaf .., used => by cases used
  | .allOf children, used => by
      obtain ⟨child, mem, source, within⟩ := exists_within_any used
      exact ⟨source, .allOf mem within⟩
  | .anyOf children, used => by
      obtain ⟨child, mem, source, within⟩ := exists_within_any used
      exact ⟨source, .anyOf mem within⟩
  | .negation child, used => by
      obtain ⟨source, within⟩ := exists_within (p := child) used
      exact ⟨source, .negation within⟩
  | .script source, _ => ⟨source, .self⟩

theorem exists_within_any : ∀ {ps : List Predicate}, anyUsesScript ps = true →
    ∃ p ∈ ps, ∃ source, (Predicate.script source).Within p
  | [], used => by cases used
  | p :: ps, used => by
      rw [anyUsesScript, Bool.or_eq_true] at used
      rcases used with first | later
      · exact ⟨p, List.mem_cons_self, exists_within first⟩
      · obtain ⟨q, mem, within⟩ := exists_within_any later
        exact ⟨q, List.mem_cons_of_mem _ mem, within⟩

end

/-- The search for scripts misses none and finds nothing else. -/
theorem usesScript_iff {p : Predicate} :
    p.usesScript = true ↔ ∃ source, (Predicate.script source).Within p := by
  constructor
  · exact exists_within
  · rintro ⟨source, within⟩
    exact usesScript_of_within within

end Predicate

/-! ### Faults that are not about scripts -/

section Faults

variable {α β γ : Type} {x : Except DefinitionError α}

/-- Where something fails, it is not because scripts may not decide. -/
def Except.Unscripted (x : Except DefinitionError α) : Prop := x ≠ .error .injectionDisabled

theorem Except.Unscripted.map (h : Except.Unscripted x) (f : α → β) :
    Except.Unscripted (x.map f) :=
  fun fails => h (Except.map_eq_error.mp fails)

theorem Except.Unscripted.bind (h : Except.Unscripted x) {f : α → Except DefinitionError β}
    (next : ∀ a, Except.Unscripted (f a)) : Except.Unscripted (x >>= f) := by
  intro fails
  rcases Except.bind_eq_error.mp fails with first | ⟨a, -, later⟩
  · exact h first
  · exact next a later

theorem Except.Unscripted.mapM {f : γ → Except DefinitionError α}
    (each : ∀ c, Except.Unscripted (f c)) (items : List γ) :
    Except.Unscripted (items.mapM f) := by
  induction items with
  | nil => intro heq; cases heq
  | cons c rest ih =>
    rw [List.mapM_cons]
    exact (each c).bind fun a => ih.bind fun as heq => by cases heq

end Faults

theorem CompiledXPath.compile_unscripted (s : XPathSelector) :
    Except.Unscripted (CompiledXPath.compile s) := by
  unfold CompiledXPath.compile
  split
  · intro heq; cases heq
  · intro heq; cases heq
  · refine Except.Unscripted.map (Except.Unscripted.mapM (fun entry => ?_) _) _
    split <;> intro heq <;> cases heq

theorem PredicateOptions.compile_unscripted (o : PredicateOptions) :
    Except.Unscripted o.compile := by
  have excluded : Except.Unscripted o.excluded := by
    unfold PredicateOptions.excluded
    repeat' split
    all_goals intro heq; cases heq
  have selector : Except.Unscripted o.selector := by
    unfold PredicateOptions.selector
    split
    · split <;> intro heq <;> cases heq
    · exact (CompiledXPath.compile_unscripted _).map _
    · intro heq; cases heq
  exact excluded.bind fun _ => selector.bind fun _ heq => by cases heq

namespace Expected

theorem ofScalar_unscripted (operator : Operator) (n : Normalizer) (value : Json) :
    Except.Unscripted (ofScalar operator n value) := by
  unfold ofScalar
  split
  · split <;> intro heq <;> cases heq
  · split <;> intro heq <;> cases heq
  · intro heq; cases heq

mutual

theorem compile_unscripted (operator : Operator) (n : Normalizer) :
    ∀ j : Json, Except.Unscripted (compile operator n j)
  | .obj entries => by
      rw [compile]
      exact (compileMembers_unscripted operator n entries).map _
  | .arr parts => by
      rw [compile]
      split
      · intro heq; cases heq
      · exact (compileItems_unscripted operator n parts).map _
  | .null => by rw [compile]; exact ofScalar_unscripted operator n _
  | .bool b => by rw [compile]; exact ofScalar_unscripted operator n _
  | .num x => by rw [compile]; exact ofScalar_unscripted operator n _
  | .str s => by rw [compile]; exact ofScalar_unscripted operator n _

theorem compileItems_unscripted (operator : Operator) (n : Normalizer) :
    ∀ parts : List Json, Except.Unscripted (compileItems operator n parts)
  | [] => fun heq => by cases heq
  | part :: parts => by
      rw [compileItems]
      exact (compile_unscripted operator n part).bind fun _ =>
        (compileItems_unscripted operator n parts).bind fun _ heq => by cases heq

theorem compileMembers_unscripted (operator : Operator) (n : Normalizer) :
    ∀ entries : List (String × Json), Except.Unscripted (compileMembers operator n entries)
  | [] => fun heq => by cases heq
  | (key, value) :: entries => by
      rw [compileMembers]
      exact (compile_unscripted operator n value).bind fun _ =>
        (compileMembers_unscripted operator n entries).bind fun _ heq => by cases heq

end

end Expected

theorem CompiledLeaf.compile_unscripted (operator : Operator) (fields : Dict Json)
    (options : PredicateOptions) :
    Except.Unscripted (CompiledLeaf.compile operator fields options) :=
  options.compile_unscripted.bind fun _ =>
    (Expected.compileMembers_unscripted operator _ fields).bind fun _ heq => by cases heq

/-! ### Compiling with and without scripts -/

namespace CompiledPredicate

mutual

/-- What compiles where scripts may not decide has none. -/
theorem usesScript_of_compile : ∀ {p : Predicate} {compiled : CompiledPredicate},
    compile false p = .ok compiled → p.usesScript = false
  | .leaf .., _, _ => rfl
  | .allOf children, _, made => by
      obtain ⟨cs, each, -⟩ := Except.map_eq_ok.mp made
      exact usesScript_of_compileAll each
  | .anyOf children, _, made => by
      obtain ⟨cs, each, -⟩ := Except.map_eq_ok.mp made
      exact usesScript_of_compileAll each
  | .negation child, _, made => by
      obtain ⟨one, compiled, -⟩ := Except.map_eq_ok.mp made
      exact usesScript_of_compile (p := child) compiled
  | .script source, _, made => by cases made

theorem usesScript_of_compileAll : ∀ {ps : List Predicate} {compiled : List CompiledPredicate},
    compileAll false ps = .ok compiled → Predicate.anyUsesScript ps = false
  | [], _, _ => rfl
  | p :: ps, _, made => by
      obtain ⟨one, first, made⟩ := Except.bind_eq_ok.mp made
      obtain ⟨others, later, -⟩ := Except.bind_eq_ok.mp made
      rw [Predicate.anyUsesScript, usesScript_of_compile first, usesScript_of_compileAll later]
      rfl

end

mutual

/-- Compiling complains of a script only if there is one and scripts may not decide. -/
theorem scripted_of_compile {scripts : Bool} : ∀ {p : Predicate},
    compile scripts p = .error .injectionDisabled → scripts = false ∧ p.usesScript = true
  | .leaf operator fields options, fails =>
      absurd fails ((CompiledLeaf.compile_unscripted operator fields options).map _)
  | .allOf children, fails => scripted_of_compileAll (Except.map_eq_error.mp fails)
  | .anyOf children, fails => scripted_of_compileAll (Except.map_eq_error.mp fails)
  | .negation child, fails => scripted_of_compile (p := child) (Except.map_eq_error.mp fails)
  | .script source, fails => by
      rw [compile, compileScript] at fails
      cases scripts with
      | false => exact ⟨rfl, rfl⟩
      | true =>
        rw [if_pos rfl] at fails
        split at fails <;> cases fails

theorem scripted_of_compileAll {scripts : Bool} : ∀ {ps : List Predicate},
    compileAll scripts ps = .error .injectionDisabled →
      scripts = false ∧ Predicate.anyUsesScript ps = true
  | [], fails => by cases fails
  | p :: ps, fails => by
      rw [Predicate.anyUsesScript, Bool.or_eq_true]
      rcases Except.bind_eq_error.mp fails with first | ⟨one, -, fails⟩
      · exact ⟨(scripted_of_compile first).1, .inl (scripted_of_compile first).2⟩
      · rcases Except.bind_eq_error.mp fails with later | ⟨others, -, fails⟩
        · exact ⟨(scripted_of_compileAll later).1, .inr (scripted_of_compileAll later).2⟩
        · cases fails

end

end CompiledPredicate

/-! ### Building one imposter -/

/-- All predicates of the stubs of an imposter compile. -/
def ImposterDefinition.Compiles (scripts : Bool) (d : ImposterDefinition) : Prop :=
  ∀ stub ∈ d.stubs, ∃ tree, PredicateTree.compile scripts stub.predicates = .ok tree

theorem ImposterDefinition.compiles_iff {scripts : Bool} {d : ImposterDefinition} :
    d.Compiles scripts ↔
      ∀ stub ∈ d.stubs, (PredicateTree.compile scripts stub.predicates).isOk = true := by
  refine forall₂_congr fun stub _ => ?_
  cases PredicateTree.compile scripts stub.predicates <;> simp [Except.isOk, Except.toBool]

instance (scripts : Bool) (d : ImposterDefinition) : Decidable (d.Compiles scripts) :=
  decidable_of_iff _ ImposterDefinition.compiles_iff.symm

/-- An imposter is the one built of a definition: it has its port, and as many stubs. -/
structure Imposter.BuiltOf (c : Capabilities) (d : ImposterDefinition) (i : Imposter) : Prop where
  built : Imposter.build c d = .ok i
  port : i.port = d.port
  stubs : i.store.stubs.length = d.stubs.length

/-- Either the predicates of some stub do not compile, for the reason that is given, or all do and
    the imposter is there. -/
theorem Imposter.build_cases (c : Capabilities) (d : ImposterDefinition) :
    (∃ e, Imposter.build c d = .error (.invalidDefinition (.definition e)) ∧
        ∃ stub ∈ d.stubs, PredicateTree.compile c.scripts stub.predicates = .error e) ∨
      ∃ i : Imposter, i.BuiltOf c d ∧ d.Compiles c.scripts := by
  rcases Store.enlistAll_cases (Store.empty c.scripts) d.stubs with
    ⟨e, issued, cells, fails, faulty⟩ | ⟨stubs, t, works, enlisted⟩
  · refine .inl ⟨e, ?_, faulty⟩
    simp only [Imposter.build, Store.apply, fails]
  · have length : stubs.length = d.stubs.length := by
      simpa using congrArg List.length enlisted.definitions
    have compiles : d.Compiles c.scripts := by
      intro stub mem
      have bared : { stub with records := [] } ∈ stubs.map Stub.definition := by
        rw [enlisted.definitions]
        exact List.mem_map_of_mem mem
      obtain ⟨made, there, same⟩ := List.mem_map.mp bared
      have tree := (enlisted.compiled made there).tree
      rw [same] at tree
      exact ⟨made.tree, tree⟩
    have built : ∃ i, Imposter.build c d = .ok i ∧ i.port = d.port ∧ i.store.stubs = stubs := by
      simp only [Imposter.build, Store.apply, works]
      exact ⟨_, rfl, rfl, rfl⟩
    obtain ⟨i, built, port, listed⟩ := built
    exact .inr ⟨i, ⟨built, port, by rw [listed, length]⟩, compiles⟩

/-! ### A place in the registry -/

namespace Registry

/-- The imposters stand in the order of their ports, one on each. -/
def Ordered (r : Registry) : Prop := r.imposters.Pairwise fun a b => a.port < b.port

theorem place_perm (i : Imposter) (others : List Imposter) :
    (place i others).Perm (i :: others) := by
  induction others with
  | nil => exact List.Perm.refl _
  | cons other rest ih =>
    rw [place]
    split
    · exact List.Perm.refl _
    · exact (ih.cons other).trans (List.Perm.swap i other rest)

theorem place_ordered {i : Imposter} {others : List Imposter}
    (ordered : others.Pairwise fun a b => a.port < b.port)
    (free : ∀ other ∈ others, other.port ≠ i.port) :
    (place i others).Pairwise fun a b => a.port < b.port := by
  induction others with
  | nil => exact List.pairwise_singleton _ _
  | cons other rest ih =>
    obtain ⟨first, later⟩ := List.pairwise_cons.mp ordered
    rw [place]
    split
    · next before =>
      refine List.pairwise_cons.mpr ⟨?_, ordered⟩
      intro a mem
      rcases List.mem_cons.mp mem with rfl | mem
      · exact before
      · exact UInt16.lt_trans before (first a mem)
    · next notBefore =>
      have after : other.port < i.port :=
        UInt16.lt_of_le_of_ne (UInt16.not_lt.mp notBefore) (free other List.mem_cons_self)
      refine List.pairwise_cons.mpr
        ⟨?_, ih later fun a mem => free a (List.mem_cons_of_mem _ mem)⟩
      intro a mem
      rcases List.mem_cons.mp ((place_perm i rest).subset mem) with rfl | mem
      · exact after
      · exact first a mem

theorem find?_eq_none {r : Registry} {port : UInt16} (free : port ∉ r.ports) :
    r.find? port = none := by
  refine List.find?_eq_none.mpr fun i mem => ?_
  simp only [decide_eq_true_eq]
  intro taken
  exact free (List.mem_map.mpr ⟨i, mem, taken⟩)

end Registry

/-! ### Building all imposters -/

namespace EngineConfig

/-- Where every port is free, either some imposter cannot be built, for a reason of its own, or all
    are built and stand in the order of their ports. -/
theorem createAll_cases {ds : List ImposterDefinition} (apart : (ds.map (·.port)).Nodup)
    {r : Registry} (free : ∀ d ∈ ds, d.port ∉ r.ports) (ordered : r.Ordered) :
    (∃ d ∈ ds, ∃ e, createAll r ds = .error ⟨d.port, .invalidDefinition (.definition e)⟩ ∧
        ∃ stub ∈ d.stubs,
          PredicateTree.compile r.capabilities.scripts stub.predicates = .error e) ∨
      ∃ t built, createAll r ds = .ok t ∧
        List.Forall₂ (fun d i => Imposter.BuiltOf r.capabilities d i) ds built ∧
        (∀ d ∈ ds, d.Compiles r.capabilities.scripts) ∧
        t.imposters.Perm (built ++ r.imposters) ∧ t.Ordered := by
  -- the registry grows by the imposter of the first definition
  induction ds generalizing r with
  | nil => exact .inr ⟨r, [], rfl, .nil, by simp, List.Perm.refl _, ordered⟩
  | cons d rest ih =>
    obtain ⟨fresh, distinct⟩ := List.nodup_cons.mp apart
    have room := Registry.find?_eq_none (free d List.mem_cons_self)
    rcases Imposter.build_cases r.capabilities d with ⟨e, fails, faulty⟩ | ⟨i, one, compiles⟩
    · refine .inl ⟨d, List.mem_cons_self, e, ?_, faulty⟩
      simp only [createAll, Registry.create, room, fails]
    · have step : createAll r (d :: rest) =
          createAll { r with imposters := Registry.place i r.imposters } rest := by
        simp only [createAll, Registry.create, room, one.built]
      have perm := Registry.place_perm i r.imposters
      have stillFree : ∀ other ∈ rest,
          other.port ∉ (Registry.place i r.imposters).map Imposter.port := by
        intro other mem taken
        rcases List.mem_cons.mp ((perm.map Imposter.port).subset taken) with same | taken
        · rw [one.port] at same
          exact fresh (List.mem_map.mpr ⟨other, mem, same⟩)
        · exact free other (List.mem_cons_of_mem _ mem) taken
      have inOrder : Registry.Ordered { r with imposters := Registry.place i r.imposters } := by
        refine Registry.place_ordered ordered fun other mem taken => ?_
        exact free d List.mem_cons_self (List.mem_map.mpr ⟨other, mem, taken.trans one.port⟩)
      rcases ih distinct (r := { r with imposters := Registry.place i r.imposters }) stillFree
          inOrder with
        ⟨other, mem, e, fails, faulty⟩ | ⟨t, built, works, each, all, lists, inOrder⟩
      · exact .inl ⟨other, List.mem_cons_of_mem _ mem, e, step.trans fails, faulty⟩
      · refine .inr ⟨t, i :: built, step.trans works, .cons one each, ?_, ?_, inOrder⟩
        · intro other mem
          rcases List.mem_cons.mp mem with rfl | mem
          · exact compiles
          · exact all other mem
        · exact lists.trans ((perm.append_left built).trans List.perm_middle)

/-! ### Validation -/

/-- The imposters have a protocol and a port of their own, and origins are given time. -/
structure Regular (c : EngineConfig) : Prop where
  timed : c.proxyTimeoutMs ≠ 0
  named : ∀ d ∈ c.imposters, Blank.trim d.protocol.toList ≠ []
  apart : (c.imposters.map (·.port)).Nodup

/-- A script stands within some predicate of some stub. -/
def Scripted (c : EngineConfig) : Prop :=
  ∃ d ∈ c.imposters, ∃ stub ∈ d.stubs, ∃ p ∈ stub.predicates,
    ∃ source, (Predicate.script source).Within p

theorem usesScript_iff {c : EngineConfig} : c.usesScript = true ↔ c.Scripted := by
  simp only [usesScript, Scripted, List.any_eq_true, Predicate.usesScript_iff]

theorem faultAmong_eq_none {ds : List ImposterDefinition} {seen : List UInt16}
    (named : ∀ d ∈ ds, Blank.trim d.protocol.toList ≠ []) (apart : (ds.map (·.port)).Nodup)
    (unseen : ∀ d ∈ ds, d.port ∉ seen) : faultAmong seen ds = none := by
  induction ds generalizing seen with
  | nil => rfl
  | cons d rest ih =>
    obtain ⟨fresh, distinct⟩ := List.nodup_cons.mp apart
    have new : seen.contains d.port = false := by
      simpa using unseen d List.mem_cons_self
    rw [faultAmong, new, if_neg Bool.false_ne_true, if_neg (named d List.mem_cons_self)]
    refine ih (fun e mem => named e (List.mem_cons_of_mem _ mem)) distinct fun e mem seen => ?_
    rcases List.mem_cons.mp seen with same | seen
    · exact fresh (List.mem_map.mpr ⟨e, mem, same⟩)
    · exact unseen e (List.mem_cons_of_mem _ mem) seen

theorem Regular.validate {c : EngineConfig} (regular : c.Regular) :
    c.validate = if !c.allowInjection && c.usesScript then .error .injectionDisabled
      else .ok () := by
  have fault : c.fault? =
      if !c.allowInjection && c.usesScript then some .injectionDisabled else none := by
    rw [fault?, if_neg regular.timed,
      faultAmong_eq_none regular.named regular.apart fun _ _ => List.not_mem_nil]
  rw [EngineConfig.validate, fault]
  split <;> simp_all

/-- What compiles without scripts has none, so what validation refuses cannot be built. -/
theorem not_scripted_of_compiles {c : EngineConfig}
    (compiles : ∀ d ∈ c.imposters, d.Compiles false) : ¬ c.Scripted := by
  rintro ⟨d, mem, stub, memStub, p, memP, within⟩
  obtain ⟨tree, made⟩ := compiles d mem stub memStub
  have none := CompiledPredicate.usesScript_of_compileAll made
  rw [Predicate.anyUsesScript_eq, List.any_eq_false] at none
  exact none p memP (Predicate.usesScript_iff.mpr within)

/-- Building that complains of a script has found one. -/
theorem scripted_of_stub {c : EngineConfig} {d : ImposterDefinition} (mem : d ∈ c.imposters)
    {stub : StubDefinition} (memStub : stub ∈ d.stubs)
    (fails : PredicateTree.compile c.allowInjection stub.predicates = .error .injectionDisabled) :
    c.allowInjection = false ∧ c.Scripted := by
  obtain ⟨disabled, used⟩ := CompiledPredicate.scripted_of_compileAll fails
  rw [Predicate.anyUsesScript_eq] at used
  obtain ⟨p, memP, used⟩ := List.any_eq_true.mp used
  exact ⟨disabled, d, mem, stub, memStub, p, memP, Predicate.usesScript_iff.mp used⟩

theorem Regular.refused_iff {c : EngineConfig} (regular : c.Regular) :
    (∃ fault, c.validate = .error fault) ↔ c.allowInjection = false ∧ c.Scripted := by
  rw [regular.validate, ← usesScript_iff]
  cases c.allowInjection <;> cases c.usesScript <;> simp

/-- What building comes to: the first stub whose predicates do not compile stops it. -/
theorem Regular.build_cases {c : EngineConfig} (regular : c.Regular) (brokered : Bool) :
    (∃ d ∈ c.imposters, ∃ e,
        c.build brokered = .error ⟨d.port, .invalidDefinition (.definition e)⟩ ∧
        ∃ stub ∈ d.stubs, PredicateTree.compile c.allowInjection stub.predicates = .error e) ∨
      ∃ r built, c.build brokered = .ok r ∧
        List.Forall₂ (fun d i => Imposter.BuiltOf (c.capabilities brokered) d i)
          c.imposters built ∧
        (∀ d ∈ c.imposters, d.Compiles c.allowInjection) ∧ r.imposters.Perm built ∧ r.Ordered := by
  rcases createAll_cases regular.apart (r := Registry.empty (c.capabilities brokered))
    (fun _ _ => List.not_mem_nil) List.Pairwise.nil with
    fails | ⟨r, built, works, each, compiles, lists, inOrder⟩
  · exact .inl fails
  · exact .inr ⟨r, built, works, each, compiles, by simpa [Registry.empty] using lists, inOrder⟩

theorem Regular.built_iff {c : EngineConfig} (regular : c.Regular) (brokered : Bool) :
    (∃ r, c.build brokered = .ok r) ↔ ∀ d ∈ c.imposters, d.Compiles c.allowInjection := by
  rcases regular.build_cases brokered with
    ⟨d, mem, e, fails, stub, memStub, faulty⟩ | ⟨r, built, works, -, compiles, -⟩
  · constructor
    · rintro ⟨r, works⟩
      rw [fails] at works
      cases works
    · intro compiles
      obtain ⟨tree, made⟩ := compiles d mem stub memStub
      rw [faulty] at made
      cases made
  · exact ⟨fun _ => compiles, fun _ => ⟨r, works⟩⟩

/-- What validation accepts may still fail, but not for a port or a script. -/
theorem Regular.cause_of_valid {c : EngineConfig} (regular : c.Regular) {brokered : Bool}
    (valid : c.validate = .ok ()) {f : BuildFault} (fails : c.build brokered = .error f) :
    (∀ port, f.cause ≠ .portInUse port) ∧
      f.cause ≠ .invalidDefinition (.definition .injectionDisabled) := by
  rcases regular.build_cases brokered with
    ⟨d, mem, e, fails', stub, memStub, faulty⟩ | ⟨r, built, works, -⟩
  · rw [fails'] at fails
    cases fails
    constructor
    · rintro port ⟨⟩
    · rintro ⟨⟩
      obtain ⟨fault, invalid⟩ := regular.refused_iff.mpr (scripted_of_stub mem memStub faulty)
      rw [valid] at invalid
      cases invalid
  · rw [works] at fails
    cases fails

/-- Validation refuses exactly the scripts that may not decide, which building refuses too.  What it
    accepts is never refused for a port or a script; it is built if and only if the predicates of
    every stub compile, and then there is one imposter for each definition, in the order of the
    ports, with as many stubs. -/
theorem validation_agrees_with_building {c : EngineConfig} (regular : c.Regular)
    (brokered : Bool) :
    ((∃ fault, c.validate = .error fault) ↔ c.allowInjection = false ∧ c.Scripted) ∧
      (∀ fault, c.validate = .error fault → ∃ f, c.build brokered = .error f) ∧
      (c.validate = .ok () →
        (∀ f, c.build brokered = .error f → (∀ port, f.cause ≠ .portInUse port) ∧
          f.cause ≠ .invalidDefinition (.definition .injectionDisabled)) ∧
        ((∃ r, c.build brokered = .ok r) ↔ ∀ d ∈ c.imposters, d.Compiles c.allowInjection) ∧
        ∀ r, c.build brokered = .ok r → r.Ordered ∧ ∃ built, r.imposters.Perm built ∧
          List.Forall₂ (fun d i => Imposter.BuiltOf (c.capabilities brokered) d i)
            c.imposters built) := by
  refine ⟨regular.refused_iff, ?_, ?_⟩
  · intro fault invalid
    obtain ⟨disabled, scripted⟩ := regular.refused_iff.mp ⟨fault, invalid⟩
    rcases regular.build_cases brokered with ⟨d, -, e, fails, -⟩ | ⟨r, built, -, -, compiles, -⟩
    · exact ⟨_, fails⟩
    · rw [disabled] at compiles
      exact absurd scripted (not_scripted_of_compiles compiles)
  · intro valid
    refine ⟨fun f fails => regular.cause_of_valid valid fails, regular.built_iff brokered, ?_⟩
    intro r works
    rcases regular.build_cases brokered with
      ⟨d, -, e, fails, -⟩ | ⟨t, built, works', each, -, lists, inOrder⟩
    · rw [fails] at works
      cases works
    · rw [works'] at works
      cases works
      exact ⟨inOrder, built, lists, each⟩

/-- Two services in the wrong order; a script decides for the first, within a negation. -/
def twoServices (scripts : Bool) : EngineConfig where
  imposters := [
    { port := 4546, protocol := "http", name := none, recordRequests := false,
      recordMatches := false, defaultResponse := none,
      stubs := [⟨[.negation (.anyOf [.script "true"])], [], []⟩], requestCount := none,
      requests := [] },
    { port := 4545, protocol := "tcp", name := none, recordRequests := false,
      recordMatches := false, defaultResponse := none, stubs := [⟨[], [], []⟩, ⟨[], [], []⟩],
      requestCount := none, requests := [] }]
  proxyTimeoutMs := 1000
  allowInjection := scripts

theorem twoServices_regular (scripts : Bool) : (twoServices scripts).Regular where
  timed := by decide +revert
  named := by decide +revert
  apart := by decide +revert

/-- Without scripts neither accepts the two services; with scripts both do, and the order is put
    right. -/
theorem twoServices_agree :
    ((twoServices false).Scripted ∧ ∃ f, (twoServices false).build true = .error f) ∧
      ∃ r, (twoServices true).build true = .ok r ∧ r.Ordered := by
  obtain ⟨refused, both, -⟩ := validation_agrees_with_building (twoServices_regular false) true
  obtain ⟨-, -, accepted⟩ := validation_agrees_with_building (twoServices_regular true) true
  obtain ⟨-, built, listed⟩ := accepted (by decide +kernel)
  obtain ⟨r, works⟩ := built.mpr (by decide +kernel)
  exact ⟨⟨(refused.mp ⟨_, rfl⟩).2, both _ rfl⟩, r, works, (listed r works).1⟩

end EngineConfig

end VirtualService
