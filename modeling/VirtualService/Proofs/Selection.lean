/-
  VirtualService/Proofs/Selection.lean
  ====================================
  **What a recorded stub recognises again.**

  A generator selects parts of a request, and the evaluation of its predicate finds
  them there again, but by other ways: names are selected regardless of the case of
  ASCII letters and looked up by a policy of keys, and objects within texts are
  selected by reading the text anew, while an evaluation keeps its readings.  If keys
  are compared as they are, both ways lead to the same members: every part that was
  selected stands under its own key (`mem_selectFields`), so a value satisfies as a
  template whatever was selected from it (`satisfies_selected`), by induction on the
  selection.  What the predicate of one generator has read is right for the next
  (`Readings.FaithfulBy`), so all of them hold one after the other.

  Without any generator the recorded predicate compares keys regardless of case, and
  a request with two keys that differ in case alone may not be recognised
  (`ungenerated_unrecognised`).
-/
import VirtualService.Proofs.Http
import VirtualService.Proofs.Imposter
import VirtualService.Proofs.Readings
import VirtualService.Proofs.Strength

namespace VirtualService

/-! ### What is selected -/

namespace Recording

variable {fields : Dict Json} {value part : Json}

/-- An entry is selected by one field of the selection, from the value that stands under its key. -/
def SelectedBy (fields : Dict Json) (field entry : String × Json) : Prop :=
  ∃ value, entryOf? fields field.1 = some (entry.1, value) ∧ select value field.2 = some entry.2

theorem mem_selectFields {selection : List (String × Json)} {selected : Dict Json}
    {entry : String × Json} (mem : entry ∈ selectFields fields selection selected) :
    entry ∈ selected ∨ ∃ field ∈ selection, SelectedBy fields field entry := by
  induction selection generalizing selected with
  | nil => exact .inl mem
  | cons field selection ih =>
    obtain ⟨name, wanted⟩ := field
    have later : ∀ {selected : Dict Json}, entry ∈ selectFields fields selection selected →
        entry ∈ selected ∨ ∃ field ∈ (name, wanted) :: selection, SelectedBy fields field entry := by
      intro selected mem
      rcases ih mem with before | ⟨field, memField, own⟩
      · exact .inl before
      · exact .inr ⟨field, List.mem_cons_of_mem _ memField, own⟩
    rw [selectFields] at mem
    split at mem
    · next key value found =>
      split at mem
      · next part taken =>
        rcases later mem with before | own
        · rcases Dict.mem_insert before with rfl | before
          · exact .inr ⟨(name, wanted), List.mem_cons_self, value, found, taken⟩
          · exact .inl before
        · exact .inr own
      · exact later mem
    · exact later mem

theorem SelectedBy.find? (wellFormed : (Json.obj fields).WellFormed) {field entry : String × Json}
    (own : SelectedBy fields field entry) :
    ∃ value, Dict.find? fields entry.1 = some value ∧ value.WellFormed ∧
      select value field.2 = some entry.2 := by
  obtain ⟨value, found, taken⟩ := own
  obtain ⟨sorted, values⟩ := Json.wellFormed_obj.mp wellFormed
  have mem := mem_of_entryOf? found
  have apart : KeyMatch.exact.Apart fields := sorted.keys_nodup
  exact ⟨value, apart.find? mem, values _ mem, taken⟩

theorem entered_of_membersWithin {members : Dict Json} (within : membersWithin value = some members) :
    value.entered = .obj members := by
  unfold membersWithin at within
  split at within
  · cases within
    rfl
  · split at within
    · next read =>
      cases within
      simp [Json.entered, read]
    · cases within
  · cases within

theorem select_obj {selection : Dict Json} (taken : select value (.obj selection) = some part) :
    ∃ members, membersWithin value = some members ∧
      part = .obj (selectFields members selection []) := by
  rw [select] at taken
  split at taken
  · next members within =>
    refine ⟨members, within, ?_⟩
    split at taken
    · cases taken
    · next some =>
      cases taken
      rw [some]
  · cases taken

theorem select_scalar {wanted : Json} (scalar : wanted.isStructured = false)
    (taken : select value wanted = some part) : wanted = .bool true ∧ part = value := by
  cases wanted with
  | bool all =>
    cases all with
    | true =>
      rw [select] at taken
      cases taken
      exact ⟨rfl, rfl⟩
    | false => simp [select] at taken
  | arr items => cases scalar
  | obj selection => cases scalar
  | _ => simp [select] at taken

/-- An object or array is also what is selected from the value once it has been read. -/
theorem select_entered {wanted : Json} (taken : select value wanted = some part)
    (structured : part.isStructured = true) : select value.entered wanted = some part := by
  cases wanted with
  | obj selection =>
    obtain ⟨members, within, -⟩ := select_obj taken
    rw [entered_of_membersWithin within, ← taken, select, select, within]
    rfl
  | arr items => simp [select] at taken
  | _ =>
    obtain ⟨-, rfl⟩ := select_scalar rfl taken
    cases part with
    | str text => cases structured
    | _ => exact taken

end Recording

theorem Json.WellFormed.entered {j : Json} (wellFormed : j.WellFormed) : j.entered.WellFormed := by
  cases j with
  | str text =>
    rw [Json.entered]
    cases read : interpret text with
    | none => exact wellFormed
    | some value => exact interpret_wellFormed read
  | _ => exact wellFormed

/-! ### Values and what is selected from them -/

namespace Comparison

variable {r : TextRelation} {n : Normalizer}

theorem satisfies_self {j : Json} (wellFormed : j.WellFormed) :
    satisfies ⟨r, n, .exact⟩ (Expected.wanted n j) j = true := by
  have apart : j.Apart .exact := wellFormed.apart nofun
  have equal : satisfies ⟨.equal, n, .exact⟩ (Expected.wanted n j) j = true :=
    satisfies_of_deepEqual (deepEqual_self rfl j apart)
  exact satisfies_weaken (TextRelation.equal_implies r) equal

/-- With keys as they are, a value satisfies whatever is selected from it. -/
theorem satisfies_selected {wanted value part : Json} (wellFormed : value.WellFormed)
    (taken : Recording.select value wanted = some part) :
    satisfies ⟨r, n, .exact⟩ (Expected.wanted n part) value = true := by
  induction wanted using Json.induction generalizing value part with
  | scalar wanted scalar =>
    obtain ⟨-, rfl⟩ := Recording.select_scalar scalar taken
    exact satisfies_self wellFormed
  | arr items => simp [Recording.select] at taken
  | obj selection ih =>
    obtain ⟨members, within, rfl⟩ := Recording.select_obj taken
    have membersWf := Recording.membersWithin_wellFormed wellFormed within
    rw [Expected.wanted, Expected.wantedMembers_eq_map]
    -- the object that is selected from is the only one that is seen in the value
    refine satisfies_members_iff.mpr ⟨members, ?_, ?_⟩
    · rw [Json.views_of_entered (Recording.entered_of_membersWithin within)]
      exact List.mem_singleton_self _
    · intro child mem
      obtain ⟨entry, memEntry, rfl⟩ := List.mem_map.mp mem
      rcases Recording.mem_selectFields memEntry with before | ⟨field, memField, own⟩
      · cases before
      · obtain ⟨value, found, valueWf, taken⟩ := own.find? membersWf
        exact ⟨value, (KeyMatch.find?_exact members entry.1).trans found,
          ih field memField valueWf taken⟩

end Comparison

/-! ### The predicate of a generator -/

namespace Recording

open Readings

variable {request : Request} {kept : Readings}

/-- The leaf sees in a selected field a value from which the same is selected. -/
theorem actual_selected {l : CompiledLeaf} (keys : l.options.keyMatch = .exact)
    (unselected : l.options.selector = none) (wellFormed : (Json.obj request).WellFormed)
    (faithful : FaithfulBy .exact request kept) {field entry : String × Json}
    (own : SelectedBy request field entry) (n : Normalizer) :
    ∃ seen, (l.actual request entry.1 (Expected.wanted n entry.2) kept).1 = some seen ∧
      seen.WellFormed ∧ select seen field.2 = some entry.2 ∧
      FaithfulBy .exact request (l.actual request entry.1 (Expected.wanted n entry.2) kept).2 := by
  obtain ⟨value, found, valueWf, taken⟩ := own.find? wellFormed
  have shown : KeyMatch.exact.find? request entry.1 = some value :=
    (KeyMatch.find?_exact request entry.1).trans found
  rw [CompiledLeaf.actual, keys, unselected, shown]
  cases value with
  | str text =>
    obtain ⟨read, still⟩ := faithful.interpret shown
    -- a text is only read where an object or an array is expected
    by_cases structured : entry.2.isStructured = true
    · simp only [Expected.wanted_isStructured, structured, if_true, read]
      exact ⟨_, rfl, valueWf.entered, select_entered taken structured, still⟩
    · simp only [Expected.wanted_isStructured, structured]
      exact ⟨_, rfl, valueWf, taken, faithful⟩
  | _ => exact ⟨_, rfl, valueWf, taken, faithful⟩

theorem accepts_selected {operator : Operator} {fields : Dict Json} {compiled : CompiledOptions}
    (keys : compiled.keyMatch = .exact) {seen wanted part : Json} (wellFormed : seen.WellFormed)
    (taken : select seen wanted = some part)
    (fits : operator.TakesTemplate ∨ operator = .deepEquals ∧ wanted = .bool true) :
    (CompiledLeaf.comparing operator fields compiled).accepts
      (Expected.wanted compiled.normalizer part) (some seen) = true := by
  rcases fits with template | ⟨rfl, rfl⟩
  · rw [CompiledLeaf.accepts_template template, Option.any_some, keys]
    exact Comparison.satisfies_selected wellFormed taken
  · obtain ⟨-, rfl⟩ := select_scalar rfl taken
    have apart : part.Apart compiled.keyMatch := wellFormed.apart (by simp [keys])
    exact Comparison.deepEqual_self (c := ⟨.equal, compiled.normalizer, compiled.keyMatch⟩) rfl part
      apart

theorem evaluateFields_selected {l : CompiledLeaf} (keys : l.options.keyMatch = .exact)
    (unselected : l.options.selector = none) (wellFormed : (Json.obj request).WellFormed)
    {n : Normalizer} {entries : List (String × Json)}
    (each : ∀ entry ∈ entries, ∃ field, SelectedBy request field entry ∧
      ∀ seen, seen.WellFormed → select seen field.2 = some entry.2 →
        l.accepts (Expected.wanted n entry.2) (some seen) = true)
    (faithful : FaithfulBy .exact request kept) :
    (l.evaluateFields request (Expected.wantedMembers n entries) kept).1 = true ∧
      FaithfulBy .exact request
        (l.evaluateFields request (Expected.wantedMembers n entries) kept).2 := by
  induction entries generalizing kept with
  | nil => exact ⟨rfl, faithful⟩
  | cons entry entries ih =>
    -- what is read for this entry is right for those after it
    obtain ⟨field, own, accepted⟩ := each entry List.mem_cons_self
    obtain ⟨seen, found, seenWf, taken, still⟩ :=
      actual_selected keys unselected wellFormed faithful own n
    have rest := ih (fun entry mem => each entry (List.mem_cons_of_mem _ mem)) still
    rw [Expected.wantedMembers, CompiledLeaf.evaluateFields]
    simp only [found, accepted seen seenWf taken, if_true]
    exact rest

/-- Nothing but `true` and objects selects anything. -/
theorem not_selectedBy {field : String × Json} (notTrue : field.2 ≠ .bool true)
    (notObject : ∀ selection, field.2 ≠ .obj selection) (entry : String × Json) :
    ¬ SelectedBy request field entry := by
  obtain ⟨name, wanted⟩ := field
  rintro ⟨value, -, taken⟩
  cases wanted with
  | obj selection => exact notObject selection rfl
  | arr items => simp [select] at taken
  | _ => exact notTrue (select_scalar rfl taken).1

/-- What a generator asks for is found in the request as it is: keys are compared as they are, no
    part of a field is picked out, and deep equality is only asked for with whole fields. -/
structure Literal (request : Request) (g : PredicateGenerator) : Prop where
  keys : g.options.keyCaseSensitive.getD g.options.caseSensitive = true
  noJsonPath : g.options.jsonPath = none
  noXPath : g.options.xpath = none
  /-- Nothing is excluded, or what a valid pattern matches. -/
  excluded : ∃ pattern, g.options.excluded = .ok pattern
  /-- For deep equality a field is selected by `true`, or nothing is. -/
  fits : g.operator.getD .deepEquals ∈ [.equals, .contains, .startsWith, .endsWith] ∨
    g.operator.getD .deepEquals = .deepEquals ∧
      ∀ field ∈ g.selection, field.2 = .bool true ∨ ∀ entry, ¬ SelectedBy request field entry

/-- The predicate compiles and holds of the request, whatever was read right before. -/
def Recognises (scripts : Bool) (request : Request) (p : Predicate) : Prop :=
  ∃ c, CompiledPredicate.compile scripts p = .ok c ∧
    ∀ kept, FaithfulBy .exact request kept →
      (CompiledPredicate.evaluate request c kept).1 = true ∧
        FaithfulBy .exact request (CompiledPredicate.evaluate request c kept).2

/-- How a field is selected suits the operator. -/
theorem Literal.suits {g : PredicateGenerator} (literal : Literal request g)
    {field entry : String × Json} (mem : field ∈ g.selection) (own : SelectedBy request field entry) :
    (g.operator.getD .deepEquals).TakesTemplate ∨
      g.operator.getD .deepEquals = .deepEquals ∧ field.2 = .bool true := by
  rcases literal.fits with template | ⟨deep, whole⟩
  · exact .inl (Operator.template_of_mem template).1
  · right
    rcases whole field mem with all | nothing
    · exact ⟨deep, all⟩
    · exact absurd own (nothing entry)

theorem Literal.comparesTexts {g : PredicateGenerator} (literal : Literal request g) :
    (g.operator.getD .deepEquals).ComparesTexts := by
  rcases literal.fits with template | ⟨deep, -⟩
  · exact (Operator.template_of_mem template).2
  · rw [deep]
    decide

theorem Literal.compiles {g : PredicateGenerator} (literal : Literal request g) :
    ∃ compiled, g.options.compile = .ok compiled ∧ compiled.keyMatch = .exact ∧
      compiled.selector = none := by
  obtain ⟨pattern, excluded⟩ := literal.excluded
  have selector := PredicateOptions.selector_none literal.noJsonPath literal.noXPath
  refine ⟨_, PredicateOptions.compile_eq_ok.mpr ⟨pattern, none, excluded, selector, rfl⟩, ?_, rfl⟩
  rw [PredicateOptions.keyMatch, literal.keys]
  rfl

theorem eq_of_generated {g : PredicateGenerator} {p : Predicate}
    (made : generated request g = some p) :
    p = .leaf (g.operator.getD .deepEquals) (selectFields request g.selection []) g.options := by
  unfold generated at made
  split at made
  · cases made
  · next some =>
    cases made
    rw [some]

theorem Literal.recognises {g : PredicateGenerator} (literal : Literal request g)
    (wellFormed : (Json.obj request).WellFormed) {p : Predicate}
    (made : generated request g = some p) (scripts : Bool) : Recognises scripts request p := by
  obtain ⟨compiled, options, keys, unselected⟩ := literal.compiles
  have leaf : CompiledLeaf.compile _ (selectFields request g.selection []) g.options = .ok _ :=
    CompiledLeaf.compile_comparing literal.comparesTexts options
  rw [eq_of_generated made, Recognises, CompiledPredicate.compile, leaf]
  refine ⟨_, rfl, fun kept faithful => ?_⟩
  rw [CompiledPredicate.evaluate]
  refine evaluateFields_selected keys unselected wellFormed ?_ faithful
  intro entry mem
  rcases mem_selectFields mem with before | ⟨field, memField, own⟩
  · cases before
  · refine ⟨field, own, fun seen seenWf taken => ?_⟩
    exact accepts_selected keys seenWf taken (literal.suits memField own)

/-- Predicates that all recognise the request do so together. -/
theorem evaluateAll_recognised {scripts : Bool} {predicates : List Predicate}
    (each : ∀ p ∈ predicates, Recognises scripts request p) :
    ∃ tree, CompiledPredicate.compileAll scripts predicates = .ok tree ∧
      ∀ kept, FaithfulBy .exact request kept →
        (CompiledPredicate.evaluateAll request tree kept).1 = true := by
  induction predicates with
  | nil => exact ⟨[], rfl, fun _ _ => rfl⟩
  | cons p predicates ih =>
    obtain ⟨c, compiles, holds⟩ := each p List.mem_cons_self
    obtain ⟨tree, compileRest, holdRest⟩ := ih fun p mem => each p (List.mem_cons_of_mem _ mem)
    refine ⟨c :: tree, ?_, fun kept faithful => ?_⟩
    · rw [CompiledPredicate.compileAll, compiles, Except.ok_bind, compileRest]
      rfl
    · obtain ⟨first, still⟩ := holds kept faithful
      rw [CompiledPredicate.evaluateAll]
      simp only [first, if_true]
      exact holdRest _ still

/-! ### Recorded stubs -/

/-- Predicates that generators make of a request which they take as it is compile and hold of the
    request.  So do those that are made without generators if the fields that are compared can be
    told apart regardless of case. -/
theorem predicates_recognise (scripts : Bool) {request : Request}
    (wellFormed : (Json.obj request).WellFormed) {generators : List PredicateGenerator}
    (literal : ∀ g ∈ generators, Literal request g)
    (distinguishable : generators = [] → Distinguishable request) :
    ∃ tree, PredicateTree.compile scripts (predicates request generators) = .ok tree ∧
      (tree.evaluate request []).1 = true := by
  cases generators with
  | nil =>
    have own := defaultTree_own (distinguishable rfl) []
    exact ⟨_, compile_default scripts request, congrArg Prod.fst own⟩
  | cons g generators =>
    have each : ∀ p ∈ (g :: generators).filterMap (generated request),
        Recognises scripts request p := by
      intro p mem
      obtain ⟨g', there, made⟩ := List.mem_filterMap.mp mem
      exact (literal g' there).recognises wellFormed made scripts
    obtain ⟨tree, compiles, holds⟩ := evaluateAll_recognised each
    exact ⟨tree, compiles, holds [] (faithfulBy_nil .exact request)⟩

/-- An order by a customer, in the text of the body. -/
def ordering : Request :=
  HttpParts.toRequest ⟨"POST", "/orders", some "id=7", [], some "\x7b\"customer\":\"ann\",\"n\":12\x7d",
    none⟩

/-- Part of the body but for some letter, and the method. -/
def byCustomer : List PredicateGenerator :=
  [⟨[("BODY", .obj [("Customer", .bool true), ("lines", .bool true)])], some .contains,
      { PredicateOptions.default with keyCaseSensitive := some true, exceptPattern := "n" }⟩,
    ⟨[("method", .bool true), ("path", .null)], none,
      { PredicateOptions.default with caseSensitive := true }⟩]

theorem ordering_recognised :
    (Json.obj ordering).WellFormed ∧ (∀ g ∈ byCustomer, Literal ordering g) ∧
      (byCustomer = [] → Distinguishable ordering) ∧ (predicates ordering byCustomer).length = 2 ∧
      ∃ tree, PredicateTree.compile false (predicates ordering byCustomer) = .ok tree ∧
        (tree.evaluate ordering []).1 = true := by
  have wellFormed : (Json.obj ordering).WellFormed := HttpParts.toRequest_wellFormed _
  have literal : ∀ g ∈ byCustomer, Literal ordering g := by
    intro g mem
    simp only [byCustomer, List.mem_cons, List.not_mem_nil, or_false] at mem
    rcases mem with rfl | rfl
    · exact ⟨rfl, rfl, rfl, ⟨_, by rfl⟩, .inl (by decide)⟩
    · refine ⟨rfl, rfl, rfl, ⟨_, by rfl⟩, .inr ⟨rfl, fun field mem => ?_⟩⟩
      simp only [List.mem_cons, List.not_mem_nil, or_false] at mem
      rcases mem with rfl | rfl
      · exact .inl rfl
      · exact .inr (not_selectedBy nofun nofun)
  have both : (predicates ordering byCustomer).length = 2 := by decide +kernel
  exact ⟨wellFormed, literal, nofun, both, predicates_recognise false wellFormed literal nofun⟩

/-- A request with two parameters whose names differ in case alone. -/
def inTwoCases : Request :=
  HttpParts.toRequest ⟨"GET", "/a", some "k=1&K=2", [], none, none⟩

/-- What is recorded of this request without any generator does not hold of it. -/
theorem ungenerated_unrecognised :
    ((PredicateTree.compile false (predicates inTwoCases [])).map
      fun tree => (tree.evaluate inTwoCases []).1).toOption = some false := by
  decide +kernel

end Recording

end VirtualService
