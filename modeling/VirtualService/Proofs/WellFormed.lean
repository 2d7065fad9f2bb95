/-
  VirtualService/Proofs/WellFormed.lean
  =====================================
  **Well-formed JSON values.**

  The type of values leaves room for objects whose members are out of order and
  for floats that are no number.  No JSON text stands for such a value, and
  neither does an XML text: whatever is read from text is well-formed
  (`interpret_wellFormed`).  On well-formed values equality of values is
  reflexive.
-/
import VirtualService.Predicate.Interpretation
import VirtualService.Proofs.Dict

namespace VirtualService

/-! ### Comparisons of lists -/

/-- A comparison that goes through two lists item by item holds of a list and itself if it does of
    each item. -/
theorem itemwise_self {α : Type} {same : α → α → Bool} {sameAll : List α → List α → Bool}
    (nil : sameAll [] [] = true)
    (cons : ∀ a as b bs, sameAll (a :: as) (b :: bs) = (same a b && sameAll as bs))
    {items : List α} (h : ∀ a ∈ items, same a a = true) : sameAll items items = true := by
  induction items with
  | nil => exact nil
  | cons a rest ih =>
    rw [cons, h a List.mem_cons_self, ih fun b mem => h b (List.mem_cons_of_mem _ mem)]
    rfl

/-! ### Floats that are numbers -/

namespace Double

theorem magnitudeBits_ofMagnitude (negative : Bool) {m : Nat} (h : m ≤ infinityBits) :
    (ofMagnitude negative m).magnitudeBits = m := by
  have bound : m < 9223372036854775808 := Nat.lt_of_le_of_lt h (by decide)
  have power : twoTo 63 = 9223372036854775808 := by decide
  cases negative <;>
    simp only [ofMagnitude, magnitudeBits, UInt64.toNat_ofNat', power, Bool.false_eq_true,
      if_false, if_true] <;> omega

theorem isNaN_ofMagnitude (negative : Bool) {m : Nat} (h : m ≤ infinityBits) :
    (ofMagnitude negative m).isNaN = false := by
  rw [isNaN, magnitudeBits_ofMagnitude negative h]
  simpa using h

/-- Rounding a quotient always gives a number. -/
theorem isNaN_ofRatio (negative : Bool) (num den : Nat) :
    (ofRatio negative num den).isNaN = false := by
  rw [ofRatio]
  split
  · exact isNaN_ofMagnitude negative (Nat.zero_le _)
  · exact isNaN_ofMagnitude negative (Nat.min_le_right _ _)

theorem isNaN_neg {x : Double} (h : x.isNaN = false) : x.neg.isNaN = false :=
  isNaN_ofMagnitude _ (by simpa [isNaN] using h)

theorem same_self {x : Double} (h : x.isNaN = false) : same x x = true := by
  simp [same, h]

end Double

namespace Number

/-- A float is a number. -/
def WellFormed : Number → Prop
  | .int _ => True
  | .float x => x.isNaN = false

theorem same_self {n : Number} (h : n.WellFormed) : same n n = true := by
  cases n with
  | int i => simp [same]
  | float x => exact Double.same_self h

end Number

namespace Json

/-! ### The predicate -/

mutual

/-- The members of every object stand in the order of their keys, each key once, and every float is a
    number. -/
def WellFormed : Json → Prop
  | .null => True
  | .bool _ => True
  | .num n => n.WellFormed
  | .str _ => True
  | .arr items => WellFormedItems items
  | .obj members => Dict.Sorted members ∧ WellFormedMembers members

def WellFormedItems : List Json → Prop
  | [] => True
  | j :: rest => WellFormed j ∧ WellFormedItems rest

def WellFormedMembers : List (String × Json) → Prop
  | [] => True
  | (_, j) :: rest => WellFormed j ∧ WellFormedMembers rest

end

theorem wellFormed_arr {items : List Json} :
    (Json.arr items).WellFormed ↔ ∀ j ∈ items, j.WellFormed := by
  rw [WellFormed]
  induction items with
  | nil => simp [WellFormedItems]
  | cons j rest ih => simp [WellFormedItems, ih]

theorem wellFormedMembers_iff {members : List (String × Json)} :
    WellFormedMembers members ↔ ∀ entry ∈ members, entry.2.WellFormed := by
  induction members with
  | nil => simp [WellFormedMembers]
  | cons entry rest ih =>
    obtain ⟨k, j⟩ := entry
    simp [WellFormedMembers, ih]

theorem wellFormed_obj {members : Dict Json} :
    (Json.obj members).WellFormed ↔
      Dict.Sorted members ∧ ∀ entry ∈ members, entry.2.WellFormed := by
  rw [WellFormed, wellFormedMembers_iff]

theorem wellFormed_nil : (Json.obj []).WellFormed := ⟨Dict.sorted_nil, trivial⟩

theorem WellFormed.find? {members : Dict Json} (h : (Json.obj members).WellFormed) {key : String}
    {j : Json} (found : Dict.find? members key = some j) : j.WellFormed :=
  (wellFormed_obj.mp h).2 _ (Dict.mem_of_find? found)

theorem WellFormed.filter {members : Dict Json} (h : (Json.obj members).WellFormed)
    (p : String × Json → Bool) : (Json.obj (List.filter p members)).WellFormed := by
  obtain ⟨sorted, values⟩ := wellFormed_obj.mp h
  exact wellFormed_obj.mpr
    ⟨Dict.sorted_filter sorted p, fun entry mem => values entry (List.mem_filter.mp mem).1⟩

theorem WellFormed.insert {members : Dict Json} (h : (Json.obj members).WellFormed) (key : String)
    {j : Json} (hj : j.WellFormed) : (Json.obj (Dict.insert members key j)).WellFormed := by
  obtain ⟨sorted, values⟩ := wellFormed_obj.mp h
  refine wellFormed_obj.mpr ⟨Dict.sorted_insert sorted key j, fun entry mem => ?_⟩
  rcases Dict.mem_insert mem with rfl | mem
  · exact hj
  · exact values entry mem

theorem wellFormed_ofList {pairs : List (String × Json)}
    (h : ∀ entry ∈ pairs, entry.2.WellFormed) : (Json.obj (Dict.ofList pairs)).WellFormed :=
  wellFormed_obj.mpr ⟨Dict.sorted_ofList pairs, fun entry mem => h entry (Dict.mem_ofList mem)⟩

/-! ### Equality of values is reflexive -/

mutual

theorem same_self : ∀ (j : Json), j.WellFormed → same j j = true
  | .null, _ => rfl
  | .bool b, _ => by simp [same]
  | .num n, h => Number.same_self h
  | .str s, _ => by simp [same]
  | .arr items, h => by
      rw [same]
      exact sameItems_self items h
  | .obj members, h => by
      rw [same]
      exact sameMembers_self members h.2

theorem sameItems_self : ∀ (items : List Json), WellFormedItems items → sameItems items items = true
  | [], _ => rfl
  | j :: rest, h => by
      rw [sameItems, same_self j h.1, sameItems_self rest h.2]
      rfl

theorem sameMembers_self : ∀ (members : List (String × Json)), WellFormedMembers members →
    sameMembers members members = true
  | [], _ => rfl
  | (k, j) :: rest, h => by
      rw [sameMembers, same_self j h.1, sameMembers_self rest h.2]
      simp

end

/-! ### Values read from JSON text -/

theorem isNaN_scaleDown : ∀ (fuel : Nat) (x : Double) (e : Nat), x.isNaN = false →
    (scaleDown fuel x e).isNaN = false := by
  intro fuel
  induction fuel with
  | zero => exact fun x e h => h
  | succ fuel ih =>
    intro x e h
    rw [scaleDown]
    split
    · exact Double.isNaN_ofRatio _ _ _
    · split
      · exact h
      · exact ih _ _ (Double.isNaN_ofRatio _ _ _)

theorem isNaN_magnitude {g : Gathered} {x : Double} (h : g.magnitude? = some x) :
    x.isNaN = false := by
  rw [Gathered.magnitude?] at h
  split at h
  · cases h
    exact isNaN_scaleDown _ _ _ (Double.isNaN_ofRatio _ _ _)
  · split at h
    · dsimp only at h
      split at h
      · cases h
      · cases h
        exact Double.isNaN_ofRatio _ _ _
    · split at h
      · cases h
        exact Double.isNaN_ofRatio _ _ _
      · cases h

theorem wellFormed_signedFloat (negative : Bool) {x : Double} (h : x.isNaN = false) :
    (signedFloat negative x).WellFormed := by
  cases negative with
  | false => exact h
  | true => exact Double.isNaN_neg h

theorem wellFormed_scaled {negative : Bool} {g : Gathered} {cs rest : List Char} {n : Number}
    (h : scaled? negative g cs = some (n, rest)) : n.WellFormed := by
  have finish : ∀ (g : Gathered) (after : List Char),
      (g.magnitude?.map fun x => (signedFloat negative x, after)) = some (n, rest) →
        n.WellFormed := by
    intro g after h
    obtain ⟨x, found, heq⟩ := Option.map_eq_some_iff.mp h
    cases heq
    exact wellFormed_signedFloat negative (isNaN_magnitude found)
  rw [scaled?.eq_def] at h
  dsimp only at h
  split at h
  · split at h
    · split at h
      · cases h
      · split at h
        · cases h
          exact wellFormed_signedFloat negative (Double.isNaN_ofMagnitude false (Nat.zero_le _))
        · exact finish _ _ h
    · exact finish _ _ h
  · exact finish _ _ h

theorem wellFormed_integer {negative : Bool} {word : Nat} {rest after : List Char} {n : Number}
    (h : unsigned?.integer negative word rest = some (n, after)) : n.WellFormed := by
  rw [unsigned?.integer] at h
  split at h
  · split at h
    · cases h
      exact wellFormed_signedFloat true (Double.isNaN_ofRatio _ _ _)
    · cases h
      trivial
  · cases h
    trivial

theorem wellFormed_unsigned {negative : Bool} {cs rest : List Char} {n : Number}
    (h : unsigned? negative cs = some (n, rest)) : n.WellFormed := by
  rw [unsigned?] at h
  dsimp only at h
  split at h
  · cases h
  · split at h
    · split at h
      · cases h
      · exact wellFormed_scaled h
    · split at h
      · exact wellFormed_scaled h
      · exact wellFormed_integer h
    · split at h
      · exact wellFormed_integer h
      · exact wellFormed_scaled h

theorem wellFormed_number {cs rest : List Char} {n : Number} (h : number? cs = some (n, rest)) :
    n.WellFormed := by
  rw [number?.eq_def] at h
  split at h <;> exact wellFormed_unsigned h

/-- Every reader gives well-formed values: by induction on the fuel, for the three readers at once. -/
theorem wellFormed_read (fuel : Nat) :
    (∀ room cs j rest, value? fuel room cs = some (j, rest) → j.WellFormed) ∧
    (∀ room cs items rest, items? fuel room cs = some (items, rest) →
      ∀ j ∈ items, j.WellFormed) ∧
    (∀ room cs members rest, members? fuel room cs = some (members, rest) →
      ∀ entry ∈ members, entry.2.WellFormed) := by
  induction fuel with
  | zero =>
    refine ⟨?_, ?_, ?_⟩
    · intro room cs j rest h
      simp [value?] at h
    · intro room cs items rest h
      simp [items?] at h
    · intro room cs members rest h
      simp [members?] at h
  | succ fuel ih =>
    obtain ⟨value, items, members⟩ := ih
    refine ⟨?_, ?_, ?_⟩
    · intro room cs j rest h
      rw [value?.eq_def] at h
      dsimp only at h
      split at h
      · cases h; trivial
      · cases h; trivial
      · cases h; trivial
      · obtain ⟨⟨s, after⟩, -, heq⟩ := Option.map_eq_some_iff.mp h
        cases heq; trivial
      · split at h
        · cases h
        · split at h
          · cases h; trivial
          · obtain ⟨⟨read, after⟩, found, heq⟩ := Option.map_eq_some_iff.mp h
            cases heq
            exact wellFormed_arr.mpr (items _ _ _ _ found)
      · split at h
        · cases h
        · split at h
          · cases h; exact ⟨trivial, trivial⟩
          · obtain ⟨⟨read, after⟩, found, heq⟩ := Option.map_eq_some_iff.mp h
            cases heq
            exact wellFormed_ofList (members _ _ _ _ found)
      · obtain ⟨⟨n, after⟩, found, heq⟩ := Option.map_eq_some_iff.mp h
        cases heq
        exact wellFormed_number found
    · intro room cs read rest h
      rw [items?.eq_def] at h
      dsimp only at h
      split at h
      · cases h
      · next item after found =>
        have first := value _ _ _ _ found
        split at h
        · cases h
          simpa using first
        · obtain ⟨⟨more, last⟩, found, heq⟩ := Option.map_eq_some_iff.mp h
          cases heq
          intro j mem
          rcases List.mem_cons.mp mem with rfl | mem
          · exact first
          · exact items _ _ _ _ found j mem
        · cases h
    · intro room cs read rest h
      rw [members?.eq_def] at h
      dsimp only at h
      split at h
      · split at h
        · cases h
        · split at h
          · split at h
            · cases h
            · next j after found =>
              have first := value _ _ _ _ found
              split at h
              · cases h
                simpa using first
              · obtain ⟨⟨more, last⟩, found, heq⟩ := Option.map_eq_some_iff.mp h
                cases heq
                intro entry mem
                rcases List.mem_cons.mp mem with rfl | mem
                · exact first
                · exact members _ _ _ _ found entry mem
              · cases h
          · cases h
      · cases h

theorem ofText_wellFormed {text : String} {j : Json} (h : ofText? text = some j) :
    j.WellFormed := by
  rw [ofText?, ofChars?] at h
  split at h
  · cases h
  · next found =>
    split at h
    · cases h
      exact (wellFormed_read _).1 _ _ _ _ found
    · cases h

/-! ### Values read from XML text -/

theorem gather_wellFormed {members : Dict Json} (h : (Json.obj members).WellFormed) (key : String)
    {j : Json} (hj : j.WellFormed) : (Json.obj (gather members key j)).WellFormed := by
  rw [gather]
  split
  · exact h.insert key hj
  · next values found =>
    refine h.insert key (wellFormed_arr.mpr fun item mem => ?_)
    rcases List.mem_append.mp mem with mem | mem
    · exact wellFormed_arr.mp (h.find? found) item mem
    · exact List.mem_singleton.mp mem ▸ hj
  · next first _ found =>
    refine h.insert key (wellFormed_arr.mpr fun item mem => ?_)
    rcases List.mem_cons.mp mem with rfl | mem
    · exact h.find? found
    · exact List.mem_singleton.mp mem ▸ hj

theorem gatherAll_wellFormed {members : Dict Json} (h : (Json.obj members).WellFormed)
    {pairs : List (String × Json)} (values : ∀ entry ∈ pairs, entry.2.WellFormed) :
    (Json.obj (gatherAll members pairs)).WellFormed := by
  induction pairs generalizing members with
  | nil => exact h
  | cons entry rest ih =>
    rw [gatherAll, List.foldl_cons]
    exact ih (gather_wellFormed h entry.1 (values entry List.mem_cons_self))
      fun other mem => values other (List.mem_cons_of_mem _ mem)

end Json

namespace Xml

theorem valueOf_wellFormed {members : Dict Json} (h : (Json.obj members).WellFormed)
    (text : String) : (valueOf members text).WellFormed := by
  rw [valueOf]
  split
  · trivial
  · dsimp only
    split
    · exact h
    · exact h.insert "#text" trivial

theorem attributeMembers_wellFormed (attributes : List Attribute) :
    (Json.obj (attributeMembers attributes)).WellFormed := by
  refine Json.wellFormed_ofList fun entry mem => ?_
  obtain ⟨a, -, rfl⟩ := List.mem_map.mp mem
  trivial

mutual

theorem Node.toJson_wellFormed : ∀ (node : Node), node.toJson.WellFormed
  | .element name spaces attributes children => by
      rw [Node.toJson]
      exact valueOf_wellFormed
        (Json.gatherAll_wellFormed (attributeMembers_wellFormed attributes)
          (childPairs_wellFormed children)) _
  | .text _ => trivial
  | .comment _ => trivial
  | .instruction _ _ => trivial

theorem childPairs_wellFormed : ∀ (children : List Node),
    ∀ entry ∈ childPairs children, entry.2.WellFormed
  | [] => by simp [childPairs]
  | .element name spaces attributes grandchildren :: rest => by
      intro entry mem
      rw [childPairs] at mem
      rcases List.mem_cons.mp mem with rfl | mem
      · exact Node.toJson_wellFormed (.element name spaces attributes grandchildren)
      · exact childPairs_wellFormed rest entry mem
  | .text _ :: rest => childPairs_wellFormed rest
  | .comment _ :: rest => childPairs_wellFormed rest
  | .instruction _ _ :: rest => childPairs_wellFormed rest

end

theorem toJson_wellFormed {text : String} {j : Json} (h : toJson? text = some j) :
    j.WellFormed := by
  rw [toJson?] at h
  split at h
  · obtain ⟨document, -, found⟩ := Option.bind_eq_some_iff.mp h
    rw [Document.toJson?] at found
    split at found
    · cases found
      refine Json.wellFormed_obj.mpr ⟨⟨by simp [Dict.Above], trivial⟩, fun entry mem => ?_⟩
      cases List.mem_singleton.mp mem
      exact Node.toJson_wellFormed _
    · cases found
  · cases h

end Xml

/-- What a text stands for is well-formed, whether the text is JSON or XML. -/
theorem interpret_wellFormed {text : String} {j : Json} (h : interpret text = some j) :
    j.WellFormed := by
  rw [interpret] at h
  split at h
  · cases h
  · next _ found =>
    cases h
    exact Json.ofText_wellFormed found
  · exact Xml.toJson_wellFormed h

end VirtualService
