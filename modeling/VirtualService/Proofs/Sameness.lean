/-
  VirtualService/Proofs/Sameness.lean
  ===================================
  **Equality of values.**

  Two values that are each equal to a third are equal to one another
  (`Json.same_of_third`), and so are two lists of predicates
  (`Predicate.sameAll_of_third`).  With reflexivity on well-formed values that makes
  equality of values an equivalence.  It is coarser than identity only because the
  two floating point zeros are equal: without floats equal values are identical
  (`Json.eq_of_same`).
-/
import VirtualService.Predicate.Definition

namespace VirtualService

/-! ### Numbers -/

theorem Double.same_of_third {x y z : Double} (xz : same x z = true) (yz : same y z = true) :
    same x y = true := by
  simp only [same, Bool.and_eq_true, Bool.or_eq_true, beq_iff_eq, Bool.not_eq_true'] at *
  obtain ⟨number, equalX | ⟨zeroX, zeroZ⟩⟩ := xz
  · obtain rfl : x = z := congrArg Double.mk equalX
    obtain ⟨-, equalY | ⟨zeroY, zeroX⟩⟩ := yz
    · exact ⟨number, .inl equalY.symm⟩
    · exact ⟨number, .inr ⟨zeroX, zeroY⟩⟩
  · obtain ⟨-, equalY | ⟨zeroY, -⟩⟩ := yz
    · obtain rfl : y = z := congrArg Double.mk equalY
      exact ⟨number, .inr ⟨zeroX, zeroZ⟩⟩
    · exact ⟨number, .inr ⟨zeroX, zeroY⟩⟩

theorem Number.same_of_third {a b c : Number} (ac : same a c = true) (bc : same b c = true) :
    same a b = true := by
  cases c with
  | int k =>
    cases a <;> cases b <;> simp_all [same]
  | float z =>
    cases a with
    | int i => cases ac
    | float x =>
      cases b with
      | int j => cases bc
      | float y => exact Double.same_of_third ac bc

/-! ### JSON values -/

namespace Json

mutual

theorem same_of_third : ∀ {a b c : Json}, same a c = true → same b c = true → same a b = true
  | .null, b, c, ac, bc => by
      cases c <;> simp only [same, Bool.false_eq_true] at ac
      cases b <;> simp_all [same]
  | .bool x, b, c, ac, bc => by
      cases c <;> simp only [same, Bool.false_eq_true] at ac
      cases b <;> simp_all [same]
  | .num n, b, c, ac, bc => by
      cases c <;> simp only [same, Bool.false_eq_true] at ac
      cases b <;> simp only [same, Bool.false_eq_true] at bc
      exact Number.same_of_third ac bc
  | .str s, b, c, ac, bc => by
      cases c <;> simp only [same, Bool.false_eq_true] at ac
      cases b <;> simp_all [same]
  | .arr items, b, c, ac, bc => by
      cases c <;> simp only [same, Bool.false_eq_true] at ac
      cases b <;> simp only [same, Bool.false_eq_true] at bc
      exact sameItems_of_third ac bc
  | .obj members, b, c, ac, bc => by
      cases c <;> simp only [same, Bool.false_eq_true] at ac
      cases b <;> simp only [same, Bool.false_eq_true] at bc
      exact sameMembers_of_third ac bc

theorem sameItems_of_third : ∀ {as bs cs : List Json},
    sameItems as cs = true → sameItems bs cs = true → sameItems as bs = true
  | [], bs, cs, ac, bc => by
      cases cs <;> simp only [sameItems, Bool.false_eq_true] at ac
      cases bs <;> simp_all [sameItems]
  | a :: as, bs, cs, ac, bc => by
      cases cs <;> simp only [sameItems, Bool.false_eq_true, Bool.and_eq_true] at ac
      cases bs <;> simp only [sameItems, Bool.false_eq_true, Bool.and_eq_true] at bc ⊢
      exact ⟨same_of_third ac.1 bc.1, sameItems_of_third ac.2 bc.2⟩

theorem sameMembers_of_third : ∀ {as bs cs : List (String × Json)},
    sameMembers as cs = true → sameMembers bs cs = true → sameMembers as bs = true
  | [], bs, cs, ac, bc => by
      cases cs <;> simp only [sameMembers, Bool.false_eq_true] at ac
      cases bs <;> simp_all [sameMembers]
  | (k, a) :: as, bs, cs, ac, bc => by
      cases cs <;> simp only [sameMembers, Bool.false_eq_true, Bool.and_eq_true, beq_iff_eq] at ac
      cases bs <;>
        simp only [sameMembers, Bool.false_eq_true, Bool.and_eq_true, beq_iff_eq] at bc ⊢
      exact ⟨⟨ac.1.1.trans bc.1.1.symm, same_of_third ac.1.2 bc.1.2⟩, sameMembers_of_third ac.2 bc.2⟩

end

/-! ### Values without floats -/

mutual

/-- No number in a value is a float. -/
def Floatless : Json → Prop
  | .null => True
  | .bool _ => True
  | .num (.int _) => True
  | .num (.float _) => False
  | .str _ => True
  | .arr items => FloatlessItems items
  | .obj members => FloatlessMembers members

def FloatlessItems : List Json → Prop
  | [] => True
  | item :: items => Floatless item ∧ FloatlessItems items

def FloatlessMembers : List (String × Json) → Prop
  | [] => True
  | (_, value) :: members => Floatless value ∧ FloatlessMembers members

end

theorem floatlessItems_iff {items : List Json} :
    FloatlessItems items ↔ ∀ item ∈ items, item.Floatless := by
  induction items with
  | nil => simp [FloatlessItems]
  | cons item items ih => simp [FloatlessItems, ih]

theorem floatlessMembers_iff {members : List (String × Json)} :
    FloatlessMembers members ↔ ∀ entry ∈ members, entry.2.Floatless := by
  induction members with
  | nil => simp [FloatlessMembers]
  | cons entry members ih =>
    obtain ⟨key, value⟩ := entry
    simp [FloatlessMembers, ih]

mutual

theorem eq_of_same : ∀ {a b : Json}, a.Floatless → same a b = true → a = b
  | .null, b, _, h => by cases b <;> simp_all [same]
  | .bool x, b, _, h => by cases b <;> simp_all [same]
  | .num (.int i), b, _, h => by
      cases b <;> simp only [same, Bool.false_eq_true] at h
      next n => cases n <;> simp_all [Number.same]
  | .num (.float x), _, floatless, _ => floatless.elim
  | .str s, b, _, h => by cases b <;> simp_all [same]
  | .arr items, b, floatless, h => by
      cases b <;> simp only [same, Bool.false_eq_true] at h
      rw [eq_of_sameItems floatless h]
  | .obj members, b, floatless, h => by
      cases b <;> simp only [same, Bool.false_eq_true] at h
      rw [eq_of_sameMembers floatless h]

theorem eq_of_sameItems : ∀ {as bs : List Json}, FloatlessItems as → sameItems as bs = true → as = bs
  | [], bs, _, h => by cases bs <;> simp_all [sameItems]
  | a :: as, bs, floatless, h => by
      cases bs <;> simp only [sameItems, Bool.false_eq_true, Bool.and_eq_true] at h
      rw [eq_of_same floatless.1 h.1, eq_of_sameItems floatless.2 h.2]

theorem eq_of_sameMembers : ∀ {as bs : List (String × Json)},
    FloatlessMembers as → sameMembers as bs = true → as = bs
  | [], bs, _, h => by cases bs <;> simp_all [sameMembers]
  | (k, a) :: as, bs, floatless, h => by
      cases bs <;> simp only [sameMembers, Bool.false_eq_true, Bool.and_eq_true, beq_iff_eq] at h
      next entry bs =>
        obtain ⟨key, value⟩ := entry
        obtain ⟨⟨keys, values⟩, rest⟩ := h
        dsimp only at keys values
        rw [keys, eq_of_same floatless.1 values, eq_of_sameMembers floatless.2 rest]

end

end Json

/-! ### Predicates -/

theorem XPathSelector.same_of_third {a b c : XPathSelector} (ac : same a c = true)
    (bc : same b c = true) : same a b = true := by
  obtain ⟨selectorA, nsA⟩ := a
  obtain ⟨selectorB, nsB⟩ := b
  obtain ⟨selectorC, nsC⟩ := c
  simp only [same, Bool.and_eq_true, beq_iff_eq] at *
  refine ⟨ac.1.trans bc.1.symm, ?_⟩
  cases nsC <;> cases nsA <;> simp only [Bool.false_eq_true, and_false] at ac
  · cases nsB <;> simp_all
  · cases nsB <;> simp only [Bool.false_eq_true, and_false] at bc ⊢
    exact Json.sameMembers_of_third ac.2 bc.2

theorem PredicateOptions.same_of_third {a b c : PredicateOptions} (ac : same a c = true)
    (bc : same b c = true) : same a b = true := by
  simp only [same, Bool.and_eq_true, beq_iff_eq] at *
  obtain ⟨⟨⟨⟨caseAC, keyAC⟩, patternAC⟩, pathAC⟩, xpathAC⟩ := ac
  obtain ⟨⟨⟨⟨caseBC, keyBC⟩, patternBC⟩, pathBC⟩, xpathBC⟩ := bc
  refine ⟨⟨⟨⟨caseAC.trans caseBC.symm, keyAC.trans keyBC.symm⟩, patternAC.trans patternBC.symm⟩,
    pathAC.trans pathBC.symm⟩, ?_⟩
  cases selectorC : c.xpath <;> cases selectorA : a.xpath <;>
    simp only [selectorC, selectorA, Bool.false_eq_true] at xpathAC xpathBC ⊢
  · cases selectorB : b.xpath <;> simp_all
  · cases selectorB : b.xpath <;> simp only [selectorB, Bool.false_eq_true] at xpathBC ⊢
    exact XPathSelector.same_of_third xpathAC xpathBC

namespace Predicate

mutual

theorem same_of_third : ∀ {p q r : Predicate}, same p r = true → same q r = true → same p q = true
  | .leaf op fields options, q, r, pr, qr => by
      cases r <;> simp only [same, Bool.false_eq_true, Bool.and_eq_true, beq_iff_eq] at pr
      cases q <;> simp only [same, Bool.false_eq_true, Bool.and_eq_true, beq_iff_eq] at qr ⊢
      exact ⟨⟨pr.1.1.trans qr.1.1.symm, Json.sameMembers_of_third pr.1.2 qr.1.2⟩,
        PredicateOptions.same_of_third pr.2 qr.2⟩
  | .allOf ps, q, r, pr, qr => by
      cases r <;> simp only [same, Bool.false_eq_true] at pr
      cases q <;> simp only [same, Bool.false_eq_true] at qr
      exact sameAll_of_third pr qr
  | .anyOf ps, q, r, pr, qr => by
      cases r <;> simp only [same, Bool.false_eq_true] at pr
      cases q <;> simp only [same, Bool.false_eq_true] at qr
      exact sameAll_of_third pr qr
  | .negation p, q, r, pr, qr => by
      cases r <;> simp only [same, Bool.false_eq_true] at pr
      cases q <;> simp only [same, Bool.false_eq_true] at qr ⊢
      exact same_of_third pr qr
  | .script source, q, r, pr, qr => by
      cases r <;> simp only [same, Bool.false_eq_true] at pr
      cases q <;> simp_all [same]

theorem sameAll_of_third : ∀ {ps qs rs : List Predicate},
    sameAll ps rs = true → sameAll qs rs = true → sameAll ps qs = true
  | [], qs, rs, pr, qr => by
      cases rs <;> simp only [sameAll, Bool.false_eq_true] at pr
      cases qs <;> simp_all [sameAll]
  | p :: ps, qs, rs, pr, qr => by
      cases rs <;> simp only [sameAll, Bool.false_eq_true, Bool.and_eq_true] at pr
      cases qs <;> simp only [sameAll, Bool.false_eq_true, Bool.and_eq_true] at qr ⊢
      exact ⟨same_of_third pr.1 qr.1, sameAll_of_third pr.2 qr.2⟩

end

end Predicate

end VirtualService
