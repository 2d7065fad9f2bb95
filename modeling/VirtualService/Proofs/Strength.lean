/-
  VirtualService/Proofs/Strength.lean
  ===================================
  **Operators from the strongest to the weakest.**

  Deep equality asks for more than a template does (`satisfies_of_deepEqual`): the
  keys it claims are the keys a template looks for, and in its pairing every expected
  item has a partner.  Of two templates the one whose relation of texts implies the
  other's is the stronger (`satisfies_weaken`), whatever is excluded and however keys
  and case are compared.  Leaves with the same parameters look at the same values, so
  what holds of values holds of leaves, field by field and with the readings kept on
  the way.
-/
import VirtualService.Proofs.Pairing
import VirtualService.Proofs.Template

namespace VirtualService

/-! ### Relations of texts -/

namespace Split

theorem contains_iff {text part : List Char} : contains text part = true ↔ part <:+: text := by
  induction text with
  | nil => simp [contains, List.isEmpty_iff]
  | cons c rest ih => simp [contains, ih, List.infix_cons_iff]

end Split

namespace TextRelation

/-- What is so related is also related otherwise. -/
def Implies (stronger weaker : TextRelation) : Prop :=
  ∀ actual expected, stronger.holds actual expected = true → weaker.holds actual expected = true

theorem equal_implies (weaker : TextRelation) : equal.Implies weaker := by
  intro actual expected same
  have : actual = expected := by simpa [holds] using same
  subst this
  cases weaker with
  | equal => exact same
  | containing => exact Split.contains_iff.mpr (List.infix_refl _)
  | starting => exact List.isPrefixOf_iff_prefix.mpr (List.prefix_refl _)
  | ending => exact List.isSuffixOf_iff_suffix.mpr (List.suffix_refl _)

theorem starting_implies_containing : starting.Implies containing := by
  intro actual expected starts
  exact Split.contains_iff.mpr (List.isPrefixOf_iff_prefix.mp starts).isInfix

theorem ending_implies_containing : ending.Implies containing := by
  intro actual expected ends
  exact Split.contains_iff.mpr (List.isSuffixOf_iff_suffix.mp ends).isInfix

end TextRelation

/-! ### Values -/

namespace Comparison

variable {c : Comparison} {stronger weaker : TextRelation} {n : Normalizer} {m : KeyMatch}

theorem part_weaken (implies : stronger.Implies weaker) {s : ExpectedScalar} {j : Json}
    (holds : part ⟨stronger, n, m⟩ s j = true) : part ⟨weaker, n, m⟩ s j = true := by
  rw [part, Bool.and_eq_true] at holds ⊢
  refine ⟨holds.1, ?_⟩
  cases s with
  | text normal => exact implies _ _ holds.2
  | pattern regex => exact holds.2
  | presence flag => exact holds.2

/-- A template is satisfied by no fewer values if the relation of texts is weaker. -/
theorem satisfies_weaken (implies : stronger.Implies weaker) {e : Expected} {j : Json}
    (holds : satisfies ⟨stronger, n, m⟩ e j = true) : satisfies ⟨weaker, n, m⟩ e j = true := by
  induction e using Expected.induction generalizing j with
  | scalar s =>
    obtain ⟨found, mem, own⟩ := satisfies_scalar_iff.mp holds
    exact satisfies_scalar_iff.mpr ⟨found, mem, part_weaken implies own⟩
  | items children ih =>
    obtain ⟨items, entered, each⟩ := satisfies_items_iff.mp holds
    refine satisfies_items_iff.mpr ⟨items, entered, fun child mem => ?_⟩
    obtain ⟨item, memItem, own⟩ := each child mem
    exact ⟨item, memItem, ih child mem own⟩
  | members entries ih =>
    obtain ⟨members, seen, each⟩ := satisfies_members_iff.mp holds
    refine satisfies_members_iff.mpr ⟨members, seen, fun entry mem => ?_⟩
    obtain ⟨value, found, own⟩ := each entry mem
    exact ⟨value, found, ih entry mem own⟩

/-- Whatever is deep equal to an expected value satisfies it as a template. -/
theorem satisfies_of_deepEqual {e : Expected} {j : Json} (equal : c.deepEqual e j = true) :
    c.satisfies e j = true := by
  induction e using Expected.induction generalizing j with
  | scalar s =>
    rw [deepEqual] at equal
    have scalar : j.isStructured = false := by
      rw [part, Bool.and_eq_true, Bool.not_eq_true'] at equal
      exact equal.1
    exact satisfies_scalar_iff.mpr ⟨j, by simp [Json.opened_scalar scalar], equal⟩
  | items children ih =>
    obtain ⟨items, entered, length, pairs⟩ := deepEqual_items_iff.mp equal
    have paired := paired_of_deepEqualItems length pairs
    refine satisfies_items_iff.mpr ⟨items, entered, fun child mem => ?_⟩
    obtain ⟨item, memItem, own⟩ := Multiset.exists_mem_of_rel_of_mem paired (Multiset.mem_coe.mpr mem)
    exact ⟨item, Multiset.mem_coe.mp memItem, ih child mem own⟩
  | members entries ih =>
    obtain ⟨members, entered, -, claims⟩ := deepEqual_members_iff.mp equal
    obtain ⟨-, each⟩ := deepEqualMembers_iff.mp claims
    refine satisfies_members_iff.mpr ⟨members, ?_, fun entry mem => ?_⟩
    · rw [Json.views_of_entered entered]
      exact List.mem_singleton_self _
    · obtain ⟨found, lookup, -, own⟩ := each entry mem
      exact ⟨found.2, by rw [KeyMatch.find?, lookup, Option.map_some], ih entry mem own⟩

end Comparison

/-! ### Leaves -/

/-- The operators for which what is expected is a template. -/
def Operator.TakesTemplate (operator : Operator) : Prop :=
  operator ≠ .deepEquals ∧ operator ≠ .presence

instance (operator : Operator) : Decidable operator.TakesTemplate :=
  inferInstanceAs (Decidable (_ ∧ _))

/-- The operators that relate texts expect a template. -/
theorem Operator.template_of_mem {operator : Operator}
    (relates : operator ∈ [.equals, .contains, .startsWith, .endsWith]) :
    operator.TakesTemplate ∧ operator.ComparesTexts := by
  simp only [List.mem_cons, List.not_mem_nil, or_false] at relates
  rcases relates with rfl | rfl | rfl | rfl <;> decide

namespace CompiledLeaf

/-- The leaf that compares fields by an operator on texts. -/
def comparing (operator : Operator) (fields : Dict Json) (compiled : CompiledOptions) : CompiledLeaf :=
  ⟨operator, Expected.wantedMembers compiled.normalizer fields, compiled⟩

variable {fields : Dict Json} {options : PredicateOptions} {compiled : CompiledOptions}
  {request : Request} {kept : Readings}

theorem compile_comparing {operator : Operator} (texts : operator.ComparesTexts)
    (ok : options.compile = .ok compiled) :
    CompiledLeaf.compile operator fields options = .ok (comparing operator fields compiled) := by
  rw [CompiledLeaf.compile, ok, Except.ok_bind, Expected.compileMembers_texts texts]
  rfl

/-- Which value a leaf compares depends on its selector, its policy of keys and on whether a structured
    value is expected. -/
theorem actual_congr {l other : CompiledLeaf} {e e' : Expected} {name : String}
    (keys : l.options.keyMatch = other.options.keyMatch)
    (selector : l.options.selector = other.options.selector)
    (shape : e.isStructured = e'.isStructured) :
    l.actual request name e kept = other.actual request name e' kept := by
  rw [actual, actual, keys, selector, shape]

/-- A leaf that accepts every value that another accepts, field by field, holds wherever the other
    does. -/
theorem evaluateFields_mono (l other : CompiledLeaf)
    (keys : l.options.keyMatch = other.options.keyMatch)
    (selector : l.options.selector = other.options.selector)
    {expected expected' : List (String × Expected)}
    (related : List.Forall₂ (fun field field' => field.1 = field'.1 ∧
      field.2.isStructured = field'.2.isStructured ∧
      ∀ value, l.accepts field.2 value = true → other.accepts field'.2 value = true)
        expected expected')
    (holds : (l.evaluateFields request expected kept).1 = true) :
    (other.evaluateFields request expected' kept).1 = true := by
  induction related generalizing kept with
  | nil => rfl
  | @cons field field' _ _ own _ ih =>
    obtain ⟨name, e⟩ := field
    obtain ⟨name', e'⟩ := field'
    obtain ⟨rfl, shape, accepted⟩ := own
    have same : l.actual request name e kept = other.actual request name e' kept :=
      actual_congr keys selector shape
    rw [evaluateFields] at holds ⊢
    rw [← same]
    generalize l.actual request name e kept = seen at holds ⊢
    obtain ⟨value, later⟩ := seen
    dsimp only at holds ⊢
    cases first : l.accepts e value with
    | false => simp [first] at holds
    | true =>
      rw [first, if_pos rfl] at holds
      rw [accepted value first, if_pos rfl]
      exact ih holds

/-- An operator under which every value is accepted that another accepts holds wherever the other
    does. -/
theorem evaluate_weaken {stronger weaker : Operator}
    (accepted : ∀ e value, (comparing stronger fields compiled).accepts e value = true →
      (comparing weaker fields compiled).accepts e value = true)
    (holds : ((comparing stronger fields compiled).evaluate request kept).1 = true) :
    ((comparing weaker fields compiled).evaluate request kept).1 = true := by
  refine evaluateFields_mono (comparing stronger fields compiled) (comparing weaker fields compiled)
    rfl rfl (List.forall₂_same.mpr ?_) holds
  intro field _
  exact ⟨rfl, rfl, accepted field.2⟩

theorem accepts_template {operator : Operator} (template : operator.TakesTemplate) (e : Expected)
    (value : Option Json) :
    (comparing operator fields compiled).accepts e value =
      value.any fun j => Comparison.satisfies
        ⟨TextRelation.ofOperator operator, compiled.normalizer, compiled.keyMatch⟩ e j := by
  cases operator with
  | deepEquals => exact absurd rfl template.1
  | presence => exact absurd rfl template.2
  | _ => rfl

theorem evaluate_template (stronger weaker : Operator) (first : stronger.TakesTemplate)
    (second : weaker.TakesTemplate)
    (implies : (TextRelation.ofOperator stronger).Implies (TextRelation.ofOperator weaker))
    (holds : ((comparing stronger fields compiled).evaluate request kept).1 = true) :
    ((comparing weaker fields compiled).evaluate request kept).1 = true := by
  refine evaluate_weaken (fun e value accepted => ?_) holds
  rw [accepts_template first] at accepted
  rw [accepts_template second]
  cases value with
  | none => cases accepted
  | some j => exact Comparison.satisfies_weaken implies accepted

theorem evaluate_deepEquals
    (holds : ((comparing .deepEquals fields compiled).evaluate request kept).1 = true) :
    ((comparing .equals fields compiled).evaluate request kept).1 = true := by
  refine evaluate_weaken (fun e value accepted => ?_) holds
  rw [accepts_template (by decide)]
  cases value with
  | none => cases accepted
  | some j => exact Comparison.satisfies_of_deepEqual accepted

/-- With any parameters that compile, the five operators on texts compile with any fields.  Where the
    deep equality of some fields holds, their equality does; where that does, the actual values start
    and end as expected; and where they start or end so, they contain what is expected. -/
theorem operator_strength (fields : Dict Json) (options : PredicateOptions) (request : Request)
    (kept : Readings) {compiled : CompiledOptions} (ok : options.compile = .ok compiled) :
    ∃ leaf : Operator → CompiledLeaf,
      (∀ operator : Operator, operator.ComparesTexts →
        CompiledLeaf.compile operator fields options = .ok (leaf operator)) ∧
      (((leaf .deepEquals).evaluate request kept).1 = true →
        ((leaf .equals).evaluate request kept).1 = true) ∧
      (((leaf .equals).evaluate request kept).1 = true →
        ((leaf .startsWith).evaluate request kept).1 = true ∧
          ((leaf .endsWith).evaluate request kept).1 = true) ∧
      (((leaf .startsWith).evaluate request kept).1 = true ∨
          ((leaf .endsWith).evaluate request kept).1 = true →
        ((leaf .contains).evaluate request kept).1 = true) := by
  refine ⟨fun operator => comparing operator fields compiled,
    fun operator texts => compile_comparing texts ok, evaluate_deepEquals, fun same => ?_, ?_⟩
  · exact ⟨evaluate_template .equals .startsWith (by decide) (by decide)
        (TextRelation.equal_implies _) same,
      evaluate_template .equals .endsWith (by decide) (by decide)
        (TextRelation.equal_implies _) same⟩
  · rintro (starts | ends)
    · exact evaluate_template .startsWith .contains (by decide) (by decide)
        TextRelation.starting_implies_containing starts
    · exact evaluate_template .endsWith .contains (by decide) (by decide)
        TextRelation.ending_implies_containing ends

/-- The user of a body, but for the hyphens in its texts. -/
def userPart : PredicateOptions :=
  { PredicateOptions.default with jsonPath := some "$.user", exceptPattern := "-" }

/-- A request with a user in its body. -/
def withUser : Request :=
  [("body", .str "\x7b\"user\":\x7b\"name\":\"Ann-Lee\"\x7d\x7d")]

/-- What the user is expected to be. -/
def annLee : Dict Json := [("body", .obj [("NAME", .str "annlee")])]

theorem annLee_by_each_operator :
    (∃ compiled, userPart.compile = .ok compiled) ∧
      ∀ operator ∈ [Operator.deepEquals, .equals, .startsWith, .endsWith, .contains],
        ∃ leaf, CompiledLeaf.compile operator annLee userPart = .ok leaf ∧
          (leaf.evaluate withUser []).1 = true := by
  obtain ⟨compiled, ok⟩ : ∃ compiled, userPart.compile = .ok compiled := ⟨_, by rfl⟩
  obtain ⟨leaf, compiles, toEquals, toEnds, toContains⟩ :=
    operator_strength annLee userPart withUser [] ok
  have deep : ((CompiledLeaf.compile .deepEquals annLee userPart).map
      fun leaf => (leaf.evaluate withUser []).1).toOption = some true := by decide +kernel
  rw [compiles .deepEquals (by decide)] at deep
  have equal := toEquals (Option.some.inj deep)
  have contained := toContains (.inl (toEnds equal).1)
  refine ⟨⟨compiled, ok⟩, fun operator mem => ?_⟩
  simp only [List.mem_cons, List.not_mem_nil, or_false] at mem
  rcases mem with rfl | rfl | rfl | rfl | rfl
  · exact ⟨_, compiles _ (by decide), Option.some.inj deep⟩
  · exact ⟨_, compiles _ (by decide), equal⟩
  · exact ⟨_, compiles _ (by decide), (toEnds equal).1⟩
  · exact ⟨_, compiles _ (by decide), (toEnds equal).2⟩
  · exact ⟨_, compiles _ (by decide), contained⟩

end CompiledLeaf

end VirtualService
