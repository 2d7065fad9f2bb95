/-
  VirtualService/Proofs/Readings.lean
  ===================================
  **What the readings that are kept can change.**

  While a request is resolved, the reading of a text is kept under the name by which
  a predicate has asked for the field, and two names or two policies may mean
  different fields by it.  Read without any memory (`CompiledPredicate.holds`), a
  predicate has a truth value of its own.  Evaluation gives that value, whatever was
  evaluated before, as long as every reading kept is of the text that its name shows
  (`Readings.Faithful`); and it stays so if no two fields of the request agree in
  lower case.  If two fields do, the value may be another
  (`memory_crosses_spellings`).
-/
import VirtualService.Proofs.Dict
import VirtualService.Proofs.Key
import VirtualService.Stub.Store

namespace VirtualService

/-! ### Evaluation without memory -/

namespace CompiledLeaf

/-- The value of a field that the leaf compares, its text read anew wherever one is read. -/
def seen (l : CompiledLeaf) (request : Request) (name : String) (expected : Expected) :
    Option Json :=
  match l.options.keyMatch.find? request name, l.options.selector with
  | none, _ => none
  | some (.str text), some (.jsonPath query) => (interpret text).bind (queried query)
  | some structured, some (.jsonPath query) => queried query structured
  | some (.str text), some (.xpath selector) => selector.select text
  | some _, some (.xpath _) => none
  | some (.str text), none =>
      if expected.isStructured then some ((interpret text).getD (.str text)) else some (.str text)
  | some value, none => some value

def holds (l : CompiledLeaf) (request : Request) : Bool :=
  l.fields.all fun (name, expected) => l.accepts expected (l.seen request name expected)

end CompiledLeaf

namespace CompiledPredicate

mutual

/-- Whether a predicate holds of a request: leaves and scripts for themselves, the others by what
    they combine. -/
def holds (request : Request) : CompiledPredicate → Bool
  | .leaf l => l.holds request
  | .allOf children => holdsAll request children
  | .anyOf children => holdsAny request children
  | .negation child => !holds request child
  | .script program =>
      match program.decide request with
      | .ok holds => holds
      | .error _ => false

def holdsAll (request : Request) : List CompiledPredicate → Bool
  | [] => true
  | p :: ps => holds request p && holdsAll request ps

def holdsAny (request : Request) : List CompiledPredicate → Bool
  | [] => false
  | p :: ps => holds request p || holdsAny request ps

end

end CompiledPredicate

/-- Whether all predicates of a tree hold of a request. -/
def PredicateTree.holds (tree : PredicateTree) (request : Request) : Bool :=
  CompiledPredicate.holdsAll request tree

/-! ### Faithful readings -/

namespace Readings

variable {request : Request} {kept : Readings}

/-- Every reading kept is of the text that the request shows under its name. -/
def Faithful (request : Request) (kept : Readings) : Prop :=
  ∀ name reading, Dict.find? kept name = some reading →
    ∃ text, KeyMatch.folded.find? request name = some (.str text) ∧
      reading = VirtualService.interpret text

/-- Every reading kept is of the text that its name shows under a policy of keys. -/
def FaithfulBy (m : KeyMatch) (request : Request) (kept : Readings) : Prop :=
  ∀ name reading, Dict.find? kept name = some reading →
    ∃ text, m.find? request name = some (.str text) ∧ reading = VirtualService.interpret text

theorem faithfulBy_nil (m : KeyMatch) (request : Request) : FaithfulBy m request [] := by
  intro name reading kept
  cases kept

theorem faithful_nil (request : Request) : Faithful request [] := faithfulBy_nil .folded request

theorem FaithfulBy.interpret {m : KeyMatch} (faithful : FaithfulBy m request kept)
    {name text : String} (shown : m.find? request name = some (.str text)) :
    (kept.interpret name text).1 = VirtualService.interpret text ∧
      FaithfulBy m request (kept.interpret name text).2 := by
  unfold Readings.interpret
  split
  · next reading there =>
    -- the text that was read under this name is the one that is shown now
    obtain ⟨text', shown', rfl⟩ := faithful name reading there
    rw [shown] at shown'
    cases shown'
    exact ⟨rfl, faithful⟩
  · refine ⟨rfl, fun other reading there => ?_⟩
    rw [Dict.find?_insert] at there
    split at there
    · next same =>
      cases there
      exact ⟨text, same ▸ shown, rfl⟩
    · exact faithful other reading there

/-- A result got with kept readings is the plain one, and the readings kept are faithful. -/
def Plain {α : Type} (request : Request) (plain : α) (result : α × Readings) : Prop :=
  result.1 = plain ∧ Faithful request result.2

theorem Faithful.interpret (faithful : Faithful request kept) {name text : String}
    (shown : KeyMatch.folded.find? request name = some (.str text)) :
    Plain request (VirtualService.interpret text) (kept.interpret name text) :=
  FaithfulBy.interpret (m := .folded) faithful shown

end Readings

/-! ### One step after the other -/

section Apart

variable {request : Request} {kept : Readings}

open Readings

theorem CompiledLeaf.actual_plain (l : CompiledLeaf) (apart : KeyMatch.folded.Apart request)
    (faithful : Faithful request kept) (name : String) (expected : Expected) :
    Plain request (l.seen request name expected) (l.actual request name expected kept) := by
  unfold CompiledLeaf.actual CompiledLeaf.seen
  cases shown : l.options.keyMatch.find? request name with
  | none => exact ⟨rfl, faithful⟩
  | some value =>
    have read {text : String} (isText : value = .str text) :
        Plain request (interpret text) (kept.interpret name text) :=
      faithful.interpret (apart.find?_folded (isText ▸ shown))
    cases l.options.selector with
    | some selector =>
      cases selector with
      | jsonPath query =>
        cases value with
        | str text =>
          obtain ⟨same, still⟩ := read rfl
          exact ⟨congrArg (·.bind (queried query)) same, still⟩
        | _ => exact ⟨rfl, faithful⟩
      | xpath selector =>
        cases value <;> exact ⟨rfl, faithful⟩
    | none =>
      cases value with
      | str text =>
        dsimp only
        split
        · obtain ⟨same, still⟩ := read rfl
          exact ⟨congrArg (fun reading => some (reading.getD (.str text))) same, still⟩
        · exact ⟨rfl, faithful⟩
      | _ => exact ⟨rfl, faithful⟩

theorem CompiledLeaf.evaluate_plain (l : CompiledLeaf) (apart : KeyMatch.folded.Apart request)
    (faithful : Faithful request kept) :
    Plain request (l.holds request) (l.evaluate request kept) := by
  unfold CompiledLeaf.evaluate CompiledLeaf.holds
  induction l.fields generalizing kept with
  | nil => exact ⟨rfl, faithful⟩
  | cons field fields ih =>
    obtain ⟨name, expected⟩ := field
    obtain ⟨same, still⟩ := l.actual_plain apart faithful name expected
    rw [CompiledLeaf.evaluateFields, List.all_cons]
    dsimp only
    rw [same]
    cases l.accepts expected (l.seen request name expected) with
    | true => simpa using ih still
    | false => exact ⟨rfl, still⟩

namespace CompiledPredicate

mutual

theorem evaluate_plain (apart : KeyMatch.folded.Apart request) :
    ∀ (p : CompiledPredicate) {kept : Readings}, Faithful request kept →
      Plain request (holds request p) (evaluate request p kept)
  | .leaf l, _, faithful => l.evaluate_plain apart faithful
  | .allOf children, _, faithful => evaluateAll_plain apart children faithful
  | .anyOf children, _, faithful => evaluateAny_plain apart children faithful
  | .negation child, _, faithful => by
      obtain ⟨same, still⟩ := evaluate_plain apart child faithful
      rw [evaluate, holds]
      exact ⟨congrArg (!·) same, still⟩
  | .script program, _, faithful => by
      rw [evaluate, holds]
      cases program.decide request <;> exact ⟨rfl, faithful⟩

theorem evaluateAll_plain (apart : KeyMatch.folded.Apart request) :
    ∀ (ps : List CompiledPredicate) {kept : Readings}, Faithful request kept →
      Plain request (holdsAll request ps) (evaluateAll request ps kept)
  | [], _, faithful => ⟨rfl, faithful⟩
  | p :: ps, _, faithful => by
      obtain ⟨same, still⟩ := evaluate_plain apart p faithful
      rw [evaluateAll, holdsAll]
      dsimp only
      rw [same]
      cases holds request p with
      | true => simpa using evaluateAll_plain apart ps still
      | false => exact ⟨rfl, still⟩

theorem evaluateAny_plain (apart : KeyMatch.folded.Apart request) :
    ∀ (ps : List CompiledPredicate) {kept : Readings}, Faithful request kept →
      Plain request (holdsAny request ps) (evaluateAny request ps kept)
  | [], _, faithful => ⟨rfl, faithful⟩
  | p :: ps, _, faithful => by
      obtain ⟨same, still⟩ := evaluate_plain apart p faithful
      rw [evaluateAny, holdsAny]
      dsimp only
      rw [same]
      cases holds request p with
      | true => exact ⟨rfl, still⟩
      | false => simpa using evaluateAny_plain apart ps still

end

end CompiledPredicate

end Apart

/-! ### Whole resolutions -/

theorem Store.firstMatch_plain {request : Request} (apart : KeyMatch.folded.Apart request)
    {kept : Readings} (faithful : Readings.Faithful request kept) (stubs : List Stub) :
    firstMatch request stubs kept = stubs.find? fun stub => stub.tree.holds request := by
  induction stubs generalizing kept with
  | nil => rfl
  | cons stub stubs ih =>
    obtain ⟨same, still⟩ := CompiledPredicate.evaluateAll_plain apart stub.tree faithful
    rw [firstMatch, List.find?_cons, PredicateTree.evaluate, PredicateTree.holds]
    dsimp only
    rw [same]
    cases CompiledPredicate.holdsAll request stub.tree with
    | true => rfl
    | false => exact ih still

namespace PredicateTree

/-- The readings kept once some predicates have been evaluated, one after the other. -/
def readingsAfter (request : Request) (before : List CompiledPredicate) : Readings :=
  before.foldl (fun kept p => (p.evaluate request kept).2) []

theorem readingsAfter_faithful {request : Request} (apart : KeyMatch.folded.Apart request)
    (before : List CompiledPredicate) : Readings.Faithful request (readingsAfter request before) := by
  have step : ∀ (before : List CompiledPredicate) (kept : Readings),
      Readings.Faithful request kept →
        Readings.Faithful request (before.foldl (fun kept p => (p.evaluate request kept).2) kept) := by
    intro before
    induction before with
    | nil => exact fun _ faithful => faithful
    | cons p before ih =>
      exact fun _ faithful => ih _ (CompiledPredicate.evaluate_plain apart p faithful).2
  exact step before [] (Readings.faithful_nil request)

/-- If no two fields of a request agree in lower case, then whatever was evaluated before in the same
    resolution, a list of predicates of any kind evaluates to what it is without any memory, and of
    any stubs the first that recognises the request is the first whose predicates hold of it. -/
theorem evaluate_eq_holds {request : Request} (apart : KeyMatch.folded.Apart request)
    (before : List CompiledPredicate) (tree : PredicateTree) :
    (tree.evaluate request (readingsAfter request before)).1 = tree.holds request ∧
      ∀ stubs : List Stub, Store.firstMatch request stubs (readingsAfter request before) =
        stubs.find? fun stub => stub.tree.holds request := by
  have faithful := readingsAfter_faithful apart before
  exact ⟨(CompiledPredicate.evaluateAll_plain apart tree faithful).1,
    Store.firstMatch_plain apart faithful⟩

/-- The body holds a member `x` with a text, under one policy of keys and case. -/
def bodyHas (x : String) (m : KeyMatch) : CompiledPredicate :=
  .leaf ⟨.deepEquals, [("body", .members [("x", .scalar (.text x))])],
    ⟨m, ⟨m == .exact, none⟩, none⟩⟩

/-- A request with a single body. -/
def oneBody : Request := [("Method", .str "POST"), ("body", .str "\x7b\"x\":2\x7d")]

theorem oneBody_after_other_policy :
    KeyMatch.folded.Apart oneBody ∧
      (evaluate [bodyHas "2" .exact] oneBody (readingsAfter oneBody [bodyHas "1" .folded])).1 =
        holds [bodyHas "2" .exact] oneBody ∧
      holds [bodyHas "2" .exact] oneBody = true := by
  have apart : KeyMatch.folded.Apart oneBody := by decide +kernel
  exact ⟨apart, (evaluate_eq_holds apart [bodyHas "1" .folded] [bodyHas "2" .exact]).1,
    by decide +kernel⟩

/-- A request with two bodies, whose names differ in case alone. -/
def twoBodies : Request := [("Body", .str "\x7b\"x\":1\x7d"), ("body", .str "\x7b\"x\":2\x7d")]

/-- The one body regardless of case, and the other exactly. -/
def bothBodies : List Predicate :=
  [.leaf .deepEquals [("body", .obj [("x", Json.int 1)])] .default,
    .leaf .deepEquals [("body", .obj [("x", Json.int 2)])]
      { PredicateOptions.default with caseSensitive := true }]

/-- Both predicates hold of the request with two bodies.  Evaluated together they do not, since the
    second is given the reading of the first. -/
theorem memory_crosses_spellings :
    (compile false bothBodies).toOption.map
        (fun tree => ((tree.evaluate twoBodies []).1, tree.holds twoBodies)) =
      some (false, true) := by
  decide +kernel

end PredicateTree

end VirtualService
