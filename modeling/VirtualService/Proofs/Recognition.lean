/-
  VirtualService/Proofs/Recognition.lean
  ======================================
  **What is recorded of a request recognises it again.**

  Without generators a recording compares fields of the request by deep equality,
  regardless of case.  Such a predicate always compiles (`Recording.compile_default`).
  A value is deep equal to itself if in none of its objects two keys agree
  (`Comparison.deepEqual_self`): the greedy pairing of items then pairs each with
  itself, and every key claims its own entry.  So the predicate holds of the request
  it was made from, if the names of the fields do not agree either.
-/
import VirtualService.Predicate.Compiled
import VirtualService.Proofs.Decoding
import VirtualService.Proofs.Key
import VirtualService.Proxy.Recording

namespace VirtualService

/-! ### Parameters -/

namespace PredicateOptions

variable {o : PredicateOptions} {compiled : CompiledOptions}

theorem compile_eq_ok :
    o.compile = .ok compiled ↔ ∃ excluded selector, o.excluded = .ok excluded ∧
      o.selector = .ok selector ∧ compiled = ⟨o.keyMatch, ⟨o.caseSensitive, excluded⟩, selector⟩ := by
  rw [compile]
  constructor
  · intro ok
    obtain ⟨excluded, first, ok⟩ := Except.bind_eq_ok.mp ok
    obtain ⟨selector, second, ok⟩ := Except.bind_eq_ok.mp ok
    cases ok
    exact ⟨excluded, selector, first, second, rfl⟩
  · rintro ⟨excluded, selector, first, second, rfl⟩
    rw [first, Except.ok_bind, second, Except.ok_bind]
    rfl

theorem selector_none (noJsonPath : o.jsonPath = none) (noXPath : o.xpath = none) :
    o.selector = .ok none := by
  rw [selector, noJsonPath, noXPath]

end PredicateOptions

/-! ### Values expected as they are -/

/-- The operators for which an expected scalar is a text in normal form. -/
def Operator.ComparesTexts (operator : Operator) : Prop :=
  operator ≠ .matching ∧ operator ≠ .presence

instance (operator : Operator) : Decidable operator.ComparesTexts :=
  inferInstanceAs (Decidable (_ ∧ _))

namespace Expected

mutual

/-- What these operators expect where a value is wanted. -/
def wanted (n : Normalizer) : Json → Expected
  | .obj entries => .members (wantedMembers n entries)
  | .arr parts => .items (wantedItems n parts)
  | .null => .scalar (.text (n.normal (Json.plainText .null)))
  | .bool b => .scalar (.text (n.normal (Json.plainText (.bool b))))
  | .num x => .scalar (.text (n.normal (Json.plainText (.num x))))
  | .str s => .scalar (.text (n.normal s))

def wantedItems (n : Normalizer) : List Json → List Expected
  | [] => []
  | part :: parts => wanted n part :: wantedItems n parts

def wantedMembers (n : Normalizer) : List (String × Json) → List (String × Expected)
  | [] => []
  | (key, value) :: entries => (key, wanted n value) :: wantedMembers n entries

end

theorem wantedItems_length (n : Normalizer) (parts : List Json) :
    (wantedItems n parts).length = parts.length := by
  induction parts with
  | nil => rfl
  | cons part parts ih => rw [wantedItems, List.length_cons, ih, List.length_cons]

theorem wantedMembers_length (n : Normalizer) (entries : List (String × Json)) :
    (wantedMembers n entries).length = entries.length := by
  induction entries with
  | nil => rfl
  | cons entry entries ih => rw [wantedMembers, List.length_cons, ih, List.length_cons]

theorem wanted_isStructured (n : Normalizer) (j : Json) :
    (wanted n j).isStructured = j.isStructured := by
  cases j <;> simp [wanted, isStructured, Json.isStructured]

theorem ofScalar_texts {operator : Operator} (texts : operator.ComparesTexts) (n : Normalizer)
    (j : Json) : ofScalar operator n j = .ok (.scalar (.text (n.normal j.plainText))) := by
  cases operator with
  | matching => exact absurd rfl texts.1
  | presence => exact absurd rfl texts.2
  | _ => rfl

mutual

/-- An operator that compares texts can be asked for with any value. -/
theorem compile_texts {operator : Operator} (texts : operator.ComparesTexts) (n : Normalizer) :
    ∀ j : Json, compile operator n j = .ok (wanted n j)
  | .obj entries => by
      rw [compile, compileMembers_texts texts n entries, wanted]
      rfl
  | .arr parts => by
      rw [compile, if_neg texts.2, compileItems_texts texts n parts, wanted]
      rfl
  | .null => by rw [compile, ofScalar_texts texts, wanted]
  | .bool b => by rw [compile, ofScalar_texts texts, wanted]
  | .num x => by rw [compile, ofScalar_texts texts, wanted]
  | .str s => by rw [compile, ofScalar_texts texts, wanted]; rfl

theorem compileItems_texts {operator : Operator} (texts : operator.ComparesTexts) (n : Normalizer) :
    ∀ parts : List Json, compileItems operator n parts = .ok (wantedItems n parts)
  | [] => rfl
  | part :: parts => by
      rw [compileItems, compile_texts texts n part, Except.ok_bind,
        compileItems_texts texts n parts, Except.ok_bind, wantedItems]
      rfl

theorem compileMembers_texts {operator : Operator} (texts : operator.ComparesTexts)
    (n : Normalizer) : ∀ entries : List (String × Json),
      compileMembers operator n entries = .ok (wantedMembers n entries)
  | [] => rfl
  | (key, value) :: entries => by
      rw [compileMembers, compile_texts texts n value, Except.ok_bind,
        compileMembers_texts texts n entries, Except.ok_bind, wantedMembers]
      rfl

end

/-- Deep equality can be asked for with any value. -/
theorem compile_deepEquals (n : Normalizer) (j : Json) :
    compile .deepEquals n j = .ok (wanted n j) :=
  compile_texts (by decide) n j

theorem compileItems_deepEquals (n : Normalizer) (parts : List Json) :
    compileItems .deepEquals n parts = .ok (wantedItems n parts) :=
  compileItems_texts (by decide) n parts

theorem compileMembers_deepEquals (n : Normalizer) (entries : List (String × Json)) :
    compileMembers .deepEquals n entries = .ok (wantedMembers n entries) :=
  compileMembers_texts (by decide) n entries

end Expected

/-! ### Deep equality with itself -/

namespace Comparison

variable {c : Comparison}

theorem part_self (equal : c.relation = .equal) {j : Json} (scalar : j.isStructured = false) :
    c.part (.text (c.normalizer.normal j.plainText)) j = true := by
  simp [part, scalar, Comparison.scalar, equal, TextRelation.holds]

mutual

theorem deepEqual_self (equal : c.relation = .equal) : ∀ j : Json, j.Apart c.keyMatch →
    c.deepEqual (Expected.wanted c.normalizer j) j = true
  | .obj entries, apart => by
      have keys := apart.1.keys_nodup
      rw [Expected.wanted, deepEqual]
      simp only [Json.entered, Expected.wantedMembers_length, beq_self_eq_true, Bool.true_and]
      exact deepEqualMembers_self equal entries apart.2 apart.1 (fun _ mem => mem) keys (by simp)
  | .arr parts, apart => by
      rw [Expected.wanted, deepEqual]
      simp only [Json.entered, Expected.wantedItems_length, beq_self_eq_true, Bool.true_and]
      exact deepEqualItems_self equal parts apart
  | .null, _ => by rw [Expected.wanted, deepEqual]; exact part_self equal rfl
  | .bool b, _ => by rw [Expected.wanted, deepEqual]; exact part_self equal rfl
  | .num x, _ => by rw [Expected.wanted, deepEqual]; exact part_self equal rfl
  | .str s, _ => by rw [Expected.wanted, deepEqual]; exact part_self equal (j := .str s) rfl

-- every expected item takes the first of those that are left, which is the item itself
theorem deepEqualItems_self (equal : c.relation = .equal) : ∀ parts : List Json,
    Json.ApartItems c.keyMatch parts →
      c.deepEqualItems (Expected.wantedItems c.normalizer parts) parts = true
  | [], _ => rfl
  | part :: parts, apart => by
      have first : takeFirst (fun item => c.deepEqual (Expected.wanted c.normalizer part) item)
          (part :: parts) = some parts := by
        rw [takeFirst, deepEqual_self equal part apart.1]
        rfl
      rw [Expected.wantedItems, deepEqualItems, first]
      exact deepEqualItems_self equal parts apart.2

-- of the members of one object, some entries are still to be claimed
theorem deepEqualMembers_self (equal : c.relation = .equal) : ∀ entries : List (String × Json),
    Json.ApartMembers c.keyMatch entries → ∀ {members : Dict Json} {claimed : List String},
      c.keyMatch.Apart members → (∀ entry ∈ entries, entry ∈ members) →
        (entries.map Prod.fst).Nodup → (∀ entry ∈ entries, entry.1 ∉ claimed) →
          c.deepEqualMembers (Expected.wantedMembers c.normalizer entries) members claimed = true
  | [], _, _, _, _, _, _, _ => rfl
  | (key, value) :: entries, apart, members, claimed, membersApart, within, distinct, free => by
      have own : c.keyMatch.lookup? members key = some (key, value) :=
        membersApart.lookup? (within _ List.mem_cons_self) rfl
      have unclaimed : key ∉ claimed := free (key, value) List.mem_cons_self
      obtain ⟨notLater, distinctRest⟩ := List.nodup_cons.mp distinct
      have freeRest : ∀ entry ∈ entries, entry.1 ∉ key :: claimed := by
        intro entry mem again
        rcases List.mem_cons.mp again with same | before
        · exact notLater (List.mem_map.mpr ⟨entry, mem, same⟩)
        · exact free entry (List.mem_cons_of_mem _ mem) before
      have rest := deepEqualMembers_self equal entries apart.2 membersApart
        (fun entry mem => within entry (List.mem_cons_of_mem _ mem)) distinctRest freeRest
      rw [Expected.wantedMembers, deepEqualMembers, own]
      simp [unclaimed, deepEqual_self equal value apart.1, rest]

end

end Comparison

/-! ### Default predicates -/

namespace Recording

/-- The fields that are compared where no generator says which. -/
def compared (request : Request) : Dict Json :=
  request.filter fun entry => !unmatched.contains entry.1

/-- The parameters of a predicate that has none. -/
def plainOptions : CompiledOptions := ⟨.folded, ⟨false, none⟩, none⟩

/-- The leaf that compares fields by deep equality. -/
def leafOn (fields : Dict Json) : CompiledLeaf :=
  ⟨.deepEquals, Expected.wantedMembers ⟨false, none⟩ fields, plainOptions⟩

/-- The compiled default predicates. -/
def defaultTree (request : Request) : PredicateTree :=
  match compared request with
  | [] => []
  | field :: fields => [.leaf (leafOn (field :: fields))]

theorem compile_leafOn (fields : Dict Json) :
    CompiledLeaf.compile .deepEquals fields .default = .ok (leafOn fields) := by
  have options : PredicateOptions.default.compile = .ok plainOptions := rfl
  rw [CompiledLeaf.compile, options, Except.ok_bind, Expected.compileMembers_deepEquals]
  rfl

theorem compile_default (scripts : Bool) (request : Request) :
    PredicateTree.compile scripts (defaultPredicates request) = .ok (defaultTree request) := by
  rw [defaultPredicates, defaultTree, PredicateTree.compile]
  change CompiledPredicate.compileAll scripts (match compared request with | [] => _ | _ :: _ => _) = _
  cases compared request with
  | nil => rfl
  | cons field fields =>
    rw [CompiledPredicate.compileAll, CompiledPredicate.compile, compile_leafOn]
    rfl

/-- Every field that is compared is the one that its own name finds regardless of case, and in no
    object within it do two keys agree. -/
def Distinguishable (request : Request) : Prop :=
  ∀ field ∈ compared request,
    KeyMatch.folded.lookup? request field.1 = some field ∧ field.2.Apart .folded

theorem Distinguishable.of_apart {request : Request} (names : KeyMatch.folded.Apart request)
    (values : ∀ field ∈ compared request, field.2.Apart .folded) : Distinguishable request := by
  intro field mem
  exact ⟨names.lookup? (List.mem_filter.mp mem).1 rfl, values field mem⟩

theorem actual_own {request : Request} (fields : Dict Json) {name : String} {value : Json}
    (own : KeyMatch.folded.lookup? request name = some (name, value)) (kept : Readings) :
    (leafOn fields).actual request name (Expected.wanted ⟨false, none⟩ value) kept =
      (some value, kept) := by
  have found : KeyMatch.folded.find? request name = some value := by
    rw [KeyMatch.find?, own, Option.map_some]
  rw [CompiledLeaf.actual, show (leafOn fields).options = plainOptions from rfl]
  simp only [plainOptions, found, Expected.wanted_isStructured]
  cases value <;> rfl

theorem evaluateFields_own {request : Request} (all : Dict Json) {fields : Dict Json}
    (own : ∀ field ∈ fields,
      KeyMatch.folded.lookup? request field.1 = some field ∧ field.2.Apart .folded)
    (kept : Readings) :
    (leafOn all).evaluateFields request (Expected.wantedMembers ⟨false, none⟩ fields) kept =
      (true, kept) := by
  induction fields with
  | nil => rfl
  | cons field fields ih =>
    obtain ⟨name, value⟩ := field
    obtain ⟨found, apart⟩ := own (name, value) List.mem_cons_self
    have accepted :
        (leafOn all).accepts (Expected.wanted ⟨false, none⟩ value) (some value) = true :=
      Comparison.deepEqual_self (c := (leafOn all).comparison) rfl value apart
    rw [Expected.wantedMembers, CompiledLeaf.evaluateFields, actual_own all found kept]
    dsimp only
    rw [accepted, if_pos rfl]
    exact ih fun field mem => own field (List.mem_cons_of_mem _ mem)

/-- The predicates recorded of a request hold of it, and no reading is made for them. -/
theorem defaultTree_own {request : Request} (h : Distinguishable request) (kept : Readings) :
    (defaultTree request).evaluate request kept = (true, kept) := by
  unfold Distinguishable at h
  unfold defaultTree
  split
  · rfl
  · next field fields some =>
    rw [some] at h
    have holds := evaluateFields_own (field :: fields) h kept
    rw [PredicateTree.evaluate, CompiledPredicate.evaluateAll, CompiledPredicate.evaluate,
      CompiledLeaf.evaluate]
    dsimp only [leafOn] at holds ⊢
    rw [holds]
    rfl

end Recording

end VirtualService
