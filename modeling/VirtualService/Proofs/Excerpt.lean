/-
  VirtualService/Proofs/Excerpt.lean
  ==================================
  **A part of the body, compared with the whole.**

  A generator with a selector records the whole body and hands its selector on to the
  predicate.  The evaluation of the predicate applies the selector first, and so
  compares the part that is selected with the whole that was recorded
  (`evaluate_selecting`).  The predicate is recorded and compiles, but it holds of its
  own request only where the part happens to equal the whole
  (`selecting_recognises_iff`): of a text, where some scalar of the part has the text
  of all of it (`equals_scalar_iff`).  A scalar that a JSONPath query finds in an object
  or an array that is written in the body never has (`document_unequal`).
-/
import VirtualService.Proofs.Canonical
import VirtualService.Proofs.Http
import VirtualService.Proofs.Imposter
import VirtualService.Proofs.Parts
import VirtualService.Proofs.Strength

namespace VirtualService

/-- What a selector selects from the value of a field, a text being read anew. -/
def CompiledSelector.selected (s : CompiledSelector) (value : Json) : Option Json :=
  match s, value with
  | .jsonPath query, .str text => (interpret text).bind (CompiledLeaf.queried query)
  | .jsonPath query, structured => CompiledLeaf.queried query structured
  | .xpath path, .str text => path.select text
  | .xpath _, _ => none

/-! ### Leaves with a selector -/

namespace CompiledLeaf

variable {l : CompiledLeaf} {s : CompiledSelector} {request : Request} {name : String}

/-- The first field that is looked at is read anew. -/
theorem actual_selecting {there : Json} (selector : l.options.selector = some s)
    (shown : l.options.keyMatch.find? request name = some there) (e : Expected) :
    (l.actual request name e []).1 = s.selected there := by
  rw [actual, shown, selector]
  cases s with
  | jsonPath query => cases there <;> rfl
  | xpath path => cases there <;> rfl

theorem evaluateFields_single (l : CompiledLeaf) (request : Request) (name : String) (e : Expected)
    (kept : Readings) : (l.evaluateFields request [(name, e)] kept).1 =
      l.accepts e (l.actual request name e kept).1 := by
  rw [evaluateFields]
  dsimp only
  split
  · next accepted => exact accepted.symm
  · next rejected => exact (Bool.eq_false_iff.mpr rejected).symm

end CompiledLeaf

/-! ### Predicates recorded with a selector -/

namespace Recording

variable {request : Request} {g : PredicateGenerator} {compiled : CompiledOptions}
  {s : CompiledSelector} {key : String} {body : Json}

/-- A generator takes the whole body, asks for equality, and has parameters that compile, with a
    selector among them. -/
structure SelectsBody (g : PredicateGenerator) (compiled : CompiledOptions) (s : CompiledSelector) :
    Prop where
  whole : g.selection = [("body", .bool true)]
  equality : g.operator.getD .deepEquals ∈ [.equals, .deepEquals]
  compiles : g.options.compile = .ok compiled
  selector : compiled.selector = some s

/-- The leaf that is recorded: the body as a whole, and the selector. -/
def bodyLeaf (g : PredicateGenerator) (compiled : CompiledOptions) (key : String) (body : Json) :
    CompiledLeaf :=
  .comparing (g.operator.getD .deepEquals) [(key, body)] compiled

theorem generated_body (selects : SelectsBody g compiled s)
    (recorded : entryOf? request "body" = some (key, body)) :
    generated request g =
      some (.leaf (g.operator.getD .deepEquals) [(key, body)] g.options) := by
  have taken : selectFields request [("body", .bool true)] [] = [(key, body)] := by
    simp only [selectFields, recorded, select, Dict.insert]
  rw [generated, selects.whole, taken]

theorem compile_body (scripts : Bool) (selects : SelectsBody g compiled s)
    (recorded : entryOf? request "body" = some (key, body)) :
    PredicateTree.compile scripts (predicates request [g]) =
      .ok [.leaf (bodyLeaf g compiled key body)] := by
  have texts : (g.operator.getD .deepEquals).ComparesTexts := by
    have equality := selects.equality
    simp only [List.mem_cons, List.not_mem_nil, or_false] at equality
    rcases equality with same | same <;> rw [same] <;> decide
  have leaf : CompiledLeaf.compile (g.operator.getD .deepEquals) [(key, body)] g.options =
      .ok (bodyLeaf g compiled key body) :=
    CompiledLeaf.compile_comparing texts selects.compiles
  rw [predicates, List.filterMap_cons_some (generated_body selects recorded), List.filterMap_nil,
    PredicateTree.compile, CompiledPredicate.compileAll, CompiledPredicate.compile, leaf]
  rfl

theorem evaluate_selecting (selects : SelectsBody g compiled s) {there : Json}
    (shown : compiled.keyMatch.find? request key = some there) :
    (PredicateTree.evaluate [.leaf (bodyLeaf g compiled key body)] request []).1 =
      (bodyLeaf g compiled key body).accepts (.wanted compiled.normalizer body)
        (s.selected there) := by
  have first : (PredicateTree.evaluate [.leaf (bodyLeaf g compiled key body)] request []).1 =
      ((bodyLeaf g compiled key body).evaluate request []).1 := by
    rw [PredicateTree.evaluate, CompiledPredicate.evaluateAll, CompiledPredicate.evaluate]
    dsimp only
    split
    · next holds => exact holds.symm
    · next fails => exact (Bool.eq_false_iff.mpr fails).symm
  have seen := CompiledLeaf.actual_selecting (l := bodyLeaf g compiled key body) selects.selector
    shown (.wanted compiled.normalizer body)
  rw [first, ← seen]
  exact CompiledLeaf.evaluateFields_single _ request key (.wanted compiled.normalizer body) []

/-- What an operator of equality asks of a part that is compared with the whole. -/
def Equals (operator : Operator) (compiled : CompiledOptions) (whole part : Json) : Prop :=
  let c : Comparison := ⟨.equal, compiled.normalizer, compiled.keyMatch⟩
  (if operator = .deepEquals then c.deepEqual else c.satisfies)
    (.wanted compiled.normalizer whole) part = true

/-- The values that are compared with a scalar: for deep equality the part itself, for equality what is
    left of it when its arrays are opened. -/
def comparedWith (operator : Operator) (part : Json) : List Json :=
  if operator = .deepEquals then [part] else part.opened

/-- Where the whole is a scalar, some scalar of the part has to have its text. -/
theorem equals_scalar_iff {operator : Operator} {whole part : Json}
    (scalar : whole.isStructured = false) :
    Equals operator compiled whole part ↔
      ∃ found ∈ comparedWith operator part, found.isStructured = false ∧
        compiled.normalizer.normal found.plainText =
          compiled.normalizer.normal whole.plainText := by
  let c : Comparison := ⟨.equal, compiled.normalizer, compiled.keyMatch⟩
  have own (found : Json) :
      c.deepEqual (.scalar (.text (c.normalizer.normal whole.plainText))) found = true ↔
        found.isStructured = false ∧
          c.normalizer.normal found.plainText = c.normalizer.normal whole.plainText :=
    Comparison.deepEqual_text_iff rfl
  rw [Equals, comparedWith, Comparison.wanted_scalar scalar]
  by_cases deep : operator = .deepEquals
  · simpa [deep] using own part
  · simp only [deep, if_false]
    exact Comparison.satisfies_scalar_iff.trans
      ⟨fun ⟨found, mem, same⟩ => ⟨found, mem, (own found).mp same⟩,
        fun ⟨found, mem, same⟩ => ⟨found, mem, (own found).mpr same⟩⟩

theorem equals_self (operator : Operator) {whole : Json} (apart : whole.Apart compiled.keyMatch) :
    Equals operator compiled whole whole := by
  have equal := Comparison.deepEqual_self
    (c := ⟨.equal, compiled.normalizer, compiled.keyMatch⟩) rfl whole apart
  rw [Equals]
  split
  · exact equal
  · exact Comparison.satisfies_of_deepEqual equal

theorem bodyLeaf_accepts_iff (selects : SelectsBody g compiled s) (part : Json) :
    (bodyLeaf g compiled key body).accepts (.wanted compiled.normalizer body) (some part) = true ↔
      Equals (g.operator.getD .deepEquals) compiled body part := by
  have equality := selects.equality
  rw [bodyLeaf, Equals]
  generalize g.operator.getD .deepEquals = operator at equality ⊢
  simp only [List.mem_cons, List.not_mem_nil, or_false] at equality
  rcases equality with rfl | rfl
  · rw [CompiledLeaf.accepts_template (by decide), Option.any_some]
    exact Iff.rfl
  · exact Iff.rfl

theorem bodyLeaf_rejects_nothing (selects : SelectsBody g compiled s) :
    (bodyLeaf g compiled key body).accepts (.wanted compiled.normalizer body) none = false := by
  have equality := selects.equality
  rw [bodyLeaf]
  generalize g.operator.getD .deepEquals = operator at equality ⊢
  simp only [List.mem_cons, List.not_mem_nil, or_false] at equality
  rcases equality with rfl | rfl <;> rfl

/-- A field that is recorded is found again under its key, if not always the same one. -/
theorem find?_recorded (m : KeyMatch) (recorded : entryOf? request "body" = some (key, body)) :
    ∃ there, m.find? request key = some there ∧ (m.Apart request → there = body) := by
  have mem := mem_of_entryOf? recorded
  have some : (m.lookup? request key).isSome :=
    List.find?_isSome.mpr ⟨(key, body), mem, beq_self_eq_true _⟩
  obtain ⟨found, there⟩ := Option.isSome_iff_exists.mp some
  refine ⟨found.2, by rw [KeyMatch.find?, there, Option.map_some], fun apart => ?_⟩
  rw [apart.lookup? mem rfl] at there
  exact congrArg Prod.snd (Option.some.inj there).symm

/-! ### Bodies that hold a document -/

theorem mem_scalars_of_opened {j found : Json} (mem : found ∈ j.opened)
    (scalar : found.isStructured = false) : found ∈ j.scalars := by
  induction j using Json.induction with
  | scalar j isScalar =>
    rw [Json.opened_scalar isScalar] at mem
    rwa [Json.scalars_scalar isScalar]
  | arr items ih =>
    obtain ⟨item, memItem, left⟩ := Json.mem_opened_arr.mp mem
    exact Json.mem_scalars_arr.mpr ⟨item, memItem, ih item memItem left⟩
  | obj members _ =>
    rw [Json.opened, List.mem_singleton] at mem
    rw [mem] at scalar
    cases scalar

theorem mem_scalars_of_comparedWith {operator : Operator} {part found : Json}
    (mem : found ∈ comparedWith operator part) (scalar : found.isStructured = false) :
    found ∈ part.scalars := by
  rw [comparedWith] at mem
  split at mem
  · rw [List.mem_singleton] at mem
    rw [← mem, Json.scalars_scalar scalar]
    exact List.mem_singleton_self found
  · exact mem_scalars_of_opened mem scalar

section Document

variable {query : JsonPath.Query} {text : String} {document part : Json}

theorem partOf_queried (found : CompiledLeaf.queried query document = some part) :
    JsonPath.PartOf document part := by
  rw [CompiledLeaf.queried] at found
  split at found
  · cases found
  · next one only =>
    cases found
    exact JsonPath.Query.partOf_find (only ▸ List.mem_singleton_self part)
  · next several _ _ =>
    cases found
    intro s mem
    obtain ⟨one, there, within⟩ := Json.mem_scalars_arr.mp mem
    exact JsonPath.Query.partOf_find there s within

theorem interpret_of_ofText (read : Json.ofText? text = some document)
    (structured : document.isStructured = true) : interpret text = some document := by
  rw [interpret, read]
  cases document with
  | str s => cases structured
  | _ => rfl

/-- What a query selects from an object or an array in a text does not equal the text. -/
theorem document_unequal {operator : Operator} (nothing : compiled.normalizer.excluded = none)
    (read : Json.ofText? text = some document) (structured : document.isStructured = true)
    (selected : CompiledSelector.selected (.jsonPath query) (.str text) = some part) :
    ¬ Equals operator compiled (.str text) part := by
  intro equal
  obtain ⟨found, mem, scalar, same⟩ := (equals_scalar_iff rfl).mp equal
  have reading : (interpret text).bind (CompiledLeaf.queried query) = some part := selected
  rw [interpret_of_ofText read structured, Option.bind_some] at reading
  -- the scalar that has the text of the body would be one of the document in the body
  have within := partOf_queried reading found (mem_scalars_of_comparedWith mem scalar)
  exact Json.normal_within_ne nothing read structured within same

end Document

theorem SelectsBody.nothing_excluded (selects : SelectsBody g compiled s)
    (unsaid : g.options.exceptPattern = "") : compiled.normalizer.excluded = none := by
  obtain ⟨excluded, selector, said, -, rfl⟩ := PredicateOptions.compile_eq_ok.mp selects.compiles
  rw [PredicateOptions.excluded, unsaid] at said
  cases said
  rfl

/-- A generator that takes the whole body and selects a part of it records a predicate that compiles.
    The predicate holds of the request that it was made from if and only if the selector selects a
    part of the field that it finds, and this part equals the whole body.  A part equals a whole that
    is a scalar, as texts are, if and only if some scalar of the part has the same text; where all of
    the body is selected, the part equals it if keys can be told apart.  So the predicate never holds
    where a JSONPath query is made of an object or an array that is written in the body, if nothing is
    excluded. -/
theorem selecting_recognises_iff (scripts : Bool) (selects : SelectsBody g compiled s)
    (recorded : entryOf? request "body" = some (key, body)) :
    ∃ tree there,
      PredicateTree.compile scripts (predicates request [g]) = .ok tree ∧
      compiled.keyMatch.find? request key = some there ∧
      (compiled.keyMatch.Apart request → there = body) ∧
      ((tree.evaluate request []).1 = true ↔
        ∃ part, s.selected there = some part ∧
          Equals (g.operator.getD .deepEquals) compiled body part) ∧
      (body.isStructured = false → ∀ part,
        Equals (g.operator.getD .deepEquals) compiled body part ↔
          ∃ found ∈ comparedWith (g.operator.getD .deepEquals) part, found.isStructured = false ∧
            compiled.normalizer.normal found.plainText =
              compiled.normalizer.normal body.plainText) ∧
      (body.Apart compiled.keyMatch → Equals (g.operator.getD .deepEquals) compiled body body) ∧
      ∀ query text document, s = .jsonPath query → body = .str text → there = body →
        Json.ofText? text = some document → document.isStructured = true →
        g.options.exceptPattern = "" → (tree.evaluate request []).1 = false := by
  obtain ⟨there, shown, own⟩ := find?_recorded compiled.keyMatch recorded
  have holds : (PredicateTree.evaluate [.leaf (bodyLeaf g compiled key body)] request []).1 = true ↔
      ∃ part, s.selected there = some part ∧
        Equals (g.operator.getD .deepEquals) compiled body part := by
    rw [evaluate_selecting selects shown]
    cases s.selected there with
    | none => simp [bodyLeaf_rejects_nothing selects]
    | some part => simp [bodyLeaf_accepts_iff selects]
  refine ⟨_, there, compile_body scripts selects recorded, shown, own, holds,
    fun scalar part => equals_scalar_iff scalar, equals_self _, ?_⟩
  rintro query text document rfl rfl rfl read structured unsaid
  rw [Bool.eq_false_iff]
  intro itHolds
  obtain ⟨part, selected, equal⟩ := holds.mp itHolds
  exact document_unequal (selects.nothing_excluded unsaid) read structured selected equal

/-- A request by HTTP with a body. -/
def posting (body : String) : Request :=
  HttpParts.toRequest ⟨"POST", "/", none, [], some body, none⟩

/-- The whole body, and a part of it. -/
def bodyBy (path : String) : PredicateGenerator :=
  ⟨[("body", .bool true)], none, { PredicateOptions.default with jsonPath := some path }⟩

theorem number_recognised :
    ∃ tree, PredicateTree.compile false (predicates (posting "1") [bodyBy "$"]) = .ok tree ∧
      (tree.evaluate (posting "1") []).1 = true := by
  have options : (bodyBy "$").options.compile =
      .ok ⟨.folded, ⟨false, none⟩, some (.jsonPath (.mk .root []))⟩ := rfl
  have selects : SelectsBody (bodyBy "$") _ (.jsonPath (.mk .root [])) :=
    ⟨rfl, by decide, options, rfl⟩
  have recorded : entryOf? (posting "1") "body" = some ("body", .str "1") := rfl
  obtain ⟨tree, there, compiles, -, own, holds, scalar, -⟩ :=
    selecting_recognises_iff false selects recorded
  obtain rfl := own (HttpParts.toRequest_apart _)
  have selected : CompiledSelector.selected (.jsonPath (.mk .root [])) (.str "1") =
      some (Json.int 1) := rfl
  have equal := (scalar rfl (Json.int 1)).mpr ⟨Json.int 1, List.mem_singleton_self _, rfl, rfl⟩
  exact ⟨tree, compiles, holds.mpr ⟨Json.int 1, selected, equal⟩⟩

/-- A member of the body is selected, and what is recorded does not hold of the request. -/
theorem member_unrecognised :
    ((JsonPath.Query.ofText? "$.a").bind fun query =>
        (CompiledSelector.jsonPath query).selected (.str "\x7b\"a\":1\x7d")).map Json.compact =
          some "1" ∧
      ((PredicateTree.compile false
          (predicates (posting "\x7b\"a\":1\x7d") [bodyBy "$.a"])).map
        fun tree => (tree.evaluate (posting "\x7b\"a\":1\x7d") []).1).toOption = some false := by
  decide +kernel

end Recording

end VirtualService
