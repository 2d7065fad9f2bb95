/-
  VirtualService/Proofs/Relevance.lean
  ====================================
  **What a predicate looks at.**

  Leaves name fields, and a field is looked up by its name under either policy of
  keys.  Lower-case lookup goes through all fields of a request and takes the first
  that agrees, and what is read for one leaf is kept for the next, so it is not plain
  from the code that a field which no leaf names has no influence.  It has none:
  whether a field agrees with a name is decided by its lower-case form, so of two
  requests that have the same fields under the named lower-case forms every lookup
  gives the same (`KeyMatch.lookup?_of_agree`), and with it every reading and every
  answer on the way (`CompiledPredicate.evaluate_of_alike`).
-/
import VirtualService.Proofs.Configuration
import VirtualService.Proofs.Key

namespace VirtualService

/-! ### Lookup among the fields that agree -/

namespace KeyMatch

variable {α : Type} {a b : Dict α} {key : String}

/-- Only entries whose key agrees in lower case are ever found. -/
theorem lookup?_filter (m : KeyMatch) (d : Dict α) (key : String) :
    m.lookup? (d.filter fun entry => lowered entry.1 == lowered key) key = m.lookup? d key := by
  rw [lookup?, lookup?, List.find?_filter]
  congr 1
  funext entry
  by_cases agree : m.form entry.1 = m.form key
  · have folded : lowered entry.1 = lowered key := form_folded agree
    simp [agree, folded]
  · simp [agree]

theorem lookup?_of_agree (sortedA : Dict.Sorted a) (sortedB : Dict.Sorted b)
    (same : ∀ other, lowered other = lowered key → Dict.find? a other = Dict.find? b other)
    (m : KeyMatch) : m.lookup? a key = m.lookup? b key := by
  have filtered : a.filter (fun entry => lowered entry.1 == lowered key) =
      b.filter fun entry => lowered entry.1 == lowered key := by
    apply Dict.ext_of_sorted (Dict.sorted_filter sortedA _) (Dict.sorted_filter sortedB _)
    intro other
    rw [Dict.find?_filter a fun k => lowered k == lowered key,
      Dict.find?_filter b fun k => lowered k == lowered key]
    by_cases agree : lowered other = lowered key
    · simp [agree, same other agree]
    · simp [agree]
  rw [← lookup?_filter m a, filtered, lookup?_filter]

end KeyMatch

/-- Two requests show the same under a name, however names are compared. -/
def Request.Alike (request other : Request) (name : String) : Prop :=
  ∀ m : KeyMatch, m.find? request name = m.find? other name

/-! ### Evaluation of two requests -/

theorem Expected.compileMembers_keys {operator : Operator} {n : Normalizer}
    {entries : List (String × Json)} {fields : List (String × Expected)}
    (ok : compileMembers operator n entries = .ok fields) :
    fields.map Prod.fst = entries.map Prod.fst := by
  induction entries generalizing fields with
  | nil =>
    cases ok
    rfl
  | cons entry entries ih =>
    obtain ⟨key, value⟩ := entry
    rw [compileMembers] at ok
    obtain ⟨e, -, ok⟩ := Except.bind_eq_ok.mp ok
    obtain ⟨rest, found, ok⟩ := Except.bind_eq_ok.mp ok
    cases ok
    rw [List.map_cons, List.map_cons, ih found]

section Alike

variable {request other : Request}

theorem CompiledLeaf.evaluateFields_of_alike (l : CompiledLeaf) {fields : List (String × Expected)}
    (alike : ∀ field ∈ fields, request.Alike other field.1) (kept : Readings) :
    l.evaluateFields request fields kept = l.evaluateFields other fields kept := by
  induction fields generalizing kept with
  | nil => rfl
  | cons field fields ih =>
    obtain ⟨name, expected⟩ := field
    have same : l.actual request name expected kept = l.actual other name expected kept := by
      rw [actual, actual, alike (name, expected) List.mem_cons_self]
    have rest := ih fun field mem => alike field (List.mem_cons_of_mem _ mem)
    rw [evaluateFields, evaluateFields, same]
    simp only [rest]

namespace CompiledPredicate

variable {scripts : Bool}

mutual

theorem evaluate_of_alike : ∀ (p : Predicate) {c : CompiledPredicate}, compile scripts p = .ok c →
    p.usesScript = false →
      (∀ operator fields options, (Predicate.leaf operator fields options).Within p →
        ∀ field ∈ fields, request.Alike other field.1) →
          ∀ kept, evaluate request c kept = evaluate other c kept
  | .leaf operator fields options, c, ok, _, alike, kept => by
      obtain ⟨l, compiled, rfl⟩ := Except.map_eq_ok.mp ok
      obtain ⟨parameters, -, compiled⟩ := Except.bind_eq_ok.mp compiled
      obtain ⟨expected, found, compiled⟩ := Except.bind_eq_ok.mp compiled
      cases compiled
      apply CompiledLeaf.evaluateFields_of_alike
      intro field mem
      -- the compiled leaf names the fields of the authored one
      have named : field.1 ∈ fields.map Prod.fst := by
        rw [← Expected.compileMembers_keys found]
        exact List.mem_map_of_mem mem
      obtain ⟨entry, memEntry, same⟩ := List.mem_map.mp named
      exact same ▸ alike operator fields options .self entry memEntry
  | .allOf children, c, ok, unscripted, alike, kept => by
      obtain ⟨cs, compiled, rfl⟩ := Except.map_eq_ok.mp ok
      rw [evaluate, evaluate]
      apply evaluateAll_of_alike children compiled unscripted
      intro p mem operator fields options within
      exact alike operator fields options (.allOf mem within)
  | .anyOf children, c, ok, unscripted, alike, kept => by
      obtain ⟨cs, compiled, rfl⟩ := Except.map_eq_ok.mp ok
      rw [evaluate, evaluate]
      apply evaluateAny_of_alike children compiled unscripted
      intro p mem operator fields options within
      exact alike operator fields options (.anyOf mem within)
  | .negation child, c, ok, unscripted, alike, kept => by
      obtain ⟨d, compiled, rfl⟩ := Except.map_eq_ok.mp ok
      have same := evaluate_of_alike child compiled unscripted
        (fun operator fields options within =>
          alike operator fields options (.negation within)) kept
      rw [evaluate, evaluate, same]
  | .script _, _, _, scripted, _, _ => by cases scripted

theorem evaluateAll_of_alike : ∀ (ps : List Predicate) {cs : List CompiledPredicate},
    compileAll scripts ps = .ok cs → Predicate.anyUsesScript ps = false →
      (∀ p ∈ ps, ∀ operator fields options, (Predicate.leaf operator fields options).Within p →
        ∀ field ∈ fields, request.Alike other field.1) →
          ∀ kept, evaluateAll request cs kept = evaluateAll other cs kept
  | [], cs, ok, _, _, _ => by
      cases ok
      rfl
  | p :: ps, cs, ok, unscripted, alike, kept => by
      obtain ⟨c, first, ok⟩ := Except.bind_eq_ok.mp ok
      obtain ⟨rest, later, ok⟩ := Except.bind_eq_ok.mp ok
      cases ok
      rw [Predicate.anyUsesScript, Bool.or_eq_false_iff] at unscripted
      have same := evaluate_of_alike p first unscripted.1 (alike p List.mem_cons_self)
      have others := evaluateAll_of_alike ps later unscripted.2
        fun q mem => alike q (List.mem_cons_of_mem _ mem)
      rw [evaluateAll, evaluateAll]
      simp only [same, others]

theorem evaluateAny_of_alike : ∀ (ps : List Predicate) {cs : List CompiledPredicate},
    compileAll scripts ps = .ok cs → Predicate.anyUsesScript ps = false →
      (∀ p ∈ ps, ∀ operator fields options, (Predicate.leaf operator fields options).Within p →
        ∀ field ∈ fields, request.Alike other field.1) →
          ∀ kept, evaluateAny request cs kept = evaluateAny other cs kept
  | [], cs, ok, _, _, _ => by
      cases ok
      rfl
  | p :: ps, cs, ok, unscripted, alike, kept => by
      obtain ⟨c, first, ok⟩ := Except.bind_eq_ok.mp ok
      obtain ⟨rest, later, ok⟩ := Except.bind_eq_ok.mp ok
      cases ok
      rw [Predicate.anyUsesScript, Bool.or_eq_false_iff] at unscripted
      have same := evaluate_of_alike p first unscripted.1 (alike p List.mem_cons_self)
      have others := evaluateAny_of_alike ps later unscripted.2
        fun q mem => alike q (List.mem_cons_of_mem _ mem)
      rw [evaluateAny, evaluateAny]
      simp only [same, others]

end

end CompiledPredicate

end Alike

/-! ### Fields that no leaf names -/

/-- Some leaf within one of the predicates names the field, in whatever case. -/
def Predicate.AnyNames (predicates : List Predicate) (field : String) : Prop :=
  ∃ p ∈ predicates, ∃ operator fields options, (Predicate.leaf operator fields options).Within p ∧
    ∃ named ∈ fields, lowered named.1 = lowered field

namespace PredicateTree

/-- Predicates without scripts evaluate alike, with the same readings kept, for any two requests that
    have the same fields with the same values under the names of their leaves. -/
theorem evaluate_of_named {scripts : Bool} {predicates : List Predicate} {tree : PredicateTree}
    (compiles : compile scripts predicates = .ok tree)
    (unscripted : Predicate.anyUsesScript predicates = false) {request other : Request}
    (sorted : Dict.Sorted request) (sortedOther : Dict.Sorted other)
    (agree : ∀ field, Predicate.AnyNames predicates field →
      Dict.find? request field = Dict.find? other field) (kept : Readings) :
    tree.evaluate request kept = tree.evaluate other kept := by
  apply CompiledPredicate.evaluateAll_of_alike predicates compiles unscripted
  intro p mem operator fields options within named memNamed m
  have same : m.lookup? request named.1 = m.lookup? other named.1 := by
    apply KeyMatch.lookup?_of_agree sorted sortedOther
    intro field folded
    exact agree field ⟨p, mem, operator, fields, options, within, named, memNamed, folded.symm⟩
  rw [KeyMatch.find?, KeyMatch.find?, same]

/-- The path is not `/b`, and the body has a key or the path a letter. -/
def pathAndBody : List Predicate :=
  [.negation (.leaf .equals [("Path", .str "/b")] .default),
    .anyOf [.leaf .presence [("body", .obj [("k", .bool true)])] .default,
      .leaf .contains [("PATH", .str "z")] .default]]

/-- A request with a body that is read. -/
def toA : Request :=
  [("body", .str "\x7b\"k\":1\x7d"), ("method", .str "GET"), ("path", .str "/a")]

/-- The same body and path, with all else changed. -/
def toAOtherwise : Request :=
  [("Method", .null), ("body", .str "\x7b\"k\":1\x7d"), ("headers", .obj []), ("path", .str "/a")]

theorem lowered_of_anyNames {field : String} (named : Predicate.AnyNames pathAndBody field) :
    lowered field = "body" ∨ lowered field = "path" := by
  have body : lowered "body" = "body" := by decide +kernel
  have path : lowered "Path" = "path" ∧ lowered "PATH" = "path" := by decide +kernel
  obtain ⟨p, mem, operator, fields, options, within, entry, memEntry, same⟩ := named
  simp only [pathAndBody, List.mem_cons, List.not_mem_nil, or_false] at mem
  rcases mem with rfl | rfl
  · cases within with
    | negation deep =>
      cases deep
      cases List.mem_singleton.mp memEntry
      exact .inr (same.symm.trans path.1)
  · cases within with
    | anyOf mem deep =>
      simp only [List.mem_cons, List.not_mem_nil, or_false] at mem
      rcases mem with rfl | rfl
      · cases deep
        cases List.mem_singleton.mp memEntry
        exact .inl (same.symm.trans body)
      · cases deep
        cases List.mem_singleton.mp memEntry
        exact .inr (same.symm.trans path.2)

theorem toA_otherwise_alike :
    ∃ tree, compile false pathAndBody = .ok tree ∧
      Predicate.anyUsesScript pathAndBody = false ∧ Dict.Sorted toA ∧ Dict.Sorted toAOtherwise ∧
      (∀ field, Predicate.AnyNames pathAndBody field →
        Dict.find? toA field = Dict.find? toAOtherwise field) ∧
      (tree.evaluate toA []).1 = true ∧ (tree.evaluate toAOtherwise []).1 = true := by
  obtain ⟨tree, compiles⟩ : ∃ tree, compile false pathAndBody = .ok tree := ⟨_, by rfl⟩
  have sorted : Dict.Sorted toA := by
    refine ⟨?_, ?_, ?_, trivial⟩ <;> (unfold Dict.Above; decide +kernel)
  have sortedOther : Dict.Sorted toAOtherwise := by
    refine ⟨?_, ?_, ?_, ?_, trivial⟩ <;> (unfold Dict.Above; decide +kernel)
  have agree : ∀ field, Predicate.AnyNames pathAndBody field →
      Dict.find? toA field = Dict.find? toAOtherwise field := by
    intro field named
    have folded := lowered_of_anyNames named
    have notMethod : "method" ≠ field := by
      rintro rfl
      revert folded
      decide +kernel
    have notOther : "Method" ≠ field := by
      rintro rfl
      revert folded
      decide +kernel
    have notHeaders : "headers" ≠ field := by
      rintro rfl
      revert folded
      decide +kernel
    simp [toA, toAOtherwise, Dict.find?_cons, notMethod, notOther, notHeaders]
  have holds : ((compile false pathAndBody).toOption.map fun tree => (tree.evaluate toA []).1) =
      some true := by decide +kernel
  rw [compiles] at holds
  have first : (tree.evaluate toA []).1 = true := Option.some.inj holds
  have second := evaluate_of_named compiles rfl sorted sortedOther agree []
  exact ⟨tree, compiles, rfl, sorted, sortedOther, agree, first, second ▸ first⟩

end PredicateTree

end VirtualService
