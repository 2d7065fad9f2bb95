/-
  VirtualService/Proofs/Structure.lean
  ====================================
  **Values by their structure.**

  Arrays and objects keep their parts in lists, so what is shown of all values is
  shown of scalars, of arrays from their items, and of objects from the values of
  their members (`Json.induction`); expected values go the same way
  (`Expected.induction`).  What is found in an array by opening it, or by looking
  for objects within it, is what is found in its items; the scalars within a value
  are those of its parts (`Json.scalars`).
-/
import VirtualService.Predicate.Comparison
import VirtualService.Proofs.Key
import VirtualService.Proofs.WellFormed

namespace VirtualService

/-! ### Induction -/

theorem Json.induction {motive : Json → Prop}
    (scalar : ∀ j : Json, j.isStructured = false → motive j)
    (arr : ∀ items : List Json, (∀ item ∈ items, motive item) → motive (.arr items))
    (obj : ∀ members : Dict Json, (∀ member ∈ members, motive member.2) → motive (.obj members)) :
    ∀ j, motive j
  | .null => scalar _ rfl
  | .bool _ => scalar _ rfl
  | .num _ => scalar _ rfl
  | .str _ => scalar _ rfl
  | .arr items => arr items fun item _ => Json.induction scalar arr obj item
  | .obj members => obj members fun member _ => Json.induction scalar arr obj member.2
termination_by j => sizeOf j
decreasing_by
  · have smaller := List.sizeOf_lt_of_mem ‹item ∈ items›
    simp only [Json.arr.sizeOf_spec]
    omega
  · have smaller := List.sizeOf_lt_of_mem ‹member ∈ members›
    have within : sizeOf member = 1 + sizeOf member.1 + sizeOf member.2 := rfl
    simp only [Json.obj.sizeOf_spec]
    omega

theorem Expected.sizeOf_child {children : List Expected} {child : Expected}
    (mem : child ∈ children) : sizeOf child < sizeOf (items children) := by
  have smaller := List.sizeOf_lt_of_mem mem
  rw [items.sizeOf_spec]
  omega

theorem Expected.sizeOf_entry {entries : List (String × Expected)} {entry : String × Expected}
    (mem : entry ∈ entries) : sizeOf entry.2 < sizeOf (members entries) := by
  have smaller := List.sizeOf_lt_of_mem mem
  have within : sizeOf entry = 1 + sizeOf entry.1 + sizeOf entry.2 := rfl
  rw [members.sizeOf_spec]
  omega

theorem Expected.induction {motive : Expected → Prop}
    (scalar : ∀ s : ExpectedScalar, motive (.scalar s))
    (items : ∀ children : List Expected, (∀ child ∈ children, motive child) →
      motive (.items children))
    (members : ∀ entries : List (String × Expected), (∀ entry ∈ entries, motive entry.2) →
      motive (.members entries)) :
    ∀ e, motive e
  | .scalar s => scalar s
  | .items children => items children fun child _ => Expected.induction scalar items members child
  | .members entries =>
      members entries fun entry _ => Expected.induction scalar items members entry.2
termination_by e => sizeOf e
decreasing_by
  · exact Expected.sizeOf_child ‹child ∈ children›
  · exact Expected.sizeOf_entry ‹entry ∈ entries›

namespace Json

/-- In a well-formed value keys agree at most regardless of case. -/
theorem WellFormed.apart {m : KeyMatch} {j : Json} (wellFormed : j.WellFormed)
    (folded : m = .folded → j.Apart .folded) : j.Apart m := by
  cases m with
  | folded => exact folded rfl
  | exact =>
    clear folded
    induction j using Json.induction with
    | scalar j isScalar => exact apart_scalar isScalar
    | arr items ih =>
      refine apart_arr.mpr fun item mem => ih item mem ?_
      exact wellFormed_arr.mp wellFormed item mem
    | obj members ih =>
      obtain ⟨sorted, values⟩ := wellFormed_obj.mp wellFormed
      exact apart_obj.mpr ⟨sorted.keys_nodup, fun member mem => ih member mem (values member mem)⟩

/-! ### What is found within a value -/

theorem opened_scalar {j : Json} (scalar : j.isStructured = false) : j.opened = [j] := by
  cases j with
  | arr items => cases scalar
  | obj members => cases scalar
  | _ => rfl

theorem mem_openedAll {part : Json} {items : List Json} :
    part ∈ openedAll items ↔ ∃ item ∈ items, part ∈ item.opened := by
  induction items with
  | nil => simp [openedAll]
  | cons item items ih => simp [openedAll, ih]

theorem mem_opened_arr {part : Json} {items : List Json} :
    part ∈ (Json.arr items).opened ↔ ∃ item ∈ items, part ∈ item.opened := by
  rw [opened, mem_openedAll]

mutual

/-- The scalars that stand within a value, at whatever depth. -/
def scalars : Json → List Json
  | .arr items => scalarsItems items
  | .obj members => scalarsMembers members
  | .null => [.null]
  | .bool b => [.bool b]
  | .num n => [.num n]
  | .str s => [.str s]

def scalarsItems : List Json → List Json
  | [] => []
  | item :: items => scalars item ++ scalarsItems items

def scalarsMembers : List (String × Json) → List Json
  | [] => []
  | (_, value) :: members => scalars value ++ scalarsMembers members

end

theorem scalars_scalar {j : Json} (scalar : j.isStructured = false) : j.scalars = [j] := by
  cases j with
  | arr items => cases scalar
  | obj members => cases scalar
  | _ => rfl

theorem mem_scalars_arr {part : Json} {items : List Json} :
    part ∈ (Json.arr items).scalars ↔ ∃ item ∈ items, part ∈ item.scalars := by
  rw [scalars]
  induction items with
  | nil => simp [scalarsItems]
  | cons item items ih => simp [scalarsItems, ih]

theorem mem_scalarsMembers {part : Json} {members : List (String × Json)} :
    part ∈ scalarsMembers members ↔ ∃ member ∈ members, part ∈ member.2.scalars := by
  induction members with
  | nil => simp [scalarsMembers]
  | cons member members ih => simp [scalarsMembers, ih]

theorem mem_scalars_obj {part : Json} {members : Dict Json} :
    part ∈ (Json.obj members).scalars ↔ ∃ member ∈ members, part ∈ member.2.scalars := by
  rw [scalars, mem_scalarsMembers]

theorem views_obj (members : Dict Json) : (Json.obj members).views = [some members] := by
  rw [views]

theorem mem_viewsAll {view : Option (Dict Json)} {items : List Json} :
    view ∈ viewsAll items ↔ ∃ item ∈ items, view ∈ item.views := by
  induction items with
  | nil => simp [viewsAll]
  | cons item items ih => simp [viewsAll, ih]

theorem mem_views_items {view : Option (Dict Json)} {items : List Json} (some_item : items ≠ []) :
    view ∈ (Json.arr items).views ↔ ∃ item ∈ items, view ∈ item.views := by
  cases items with
  | nil => exact absurd rfl some_item
  | cons item items => rw [views, mem_viewsAll]

theorem mem_views_arr {members : Dict Json} {items : List Json} :
    some members ∈ (Json.arr items).views ↔ ∃ item ∈ items, some members ∈ item.views := by
  cases items with
  | nil => simp [views]
  | cons item items => exact mem_views_items (List.cons_ne_nil _ _)

/-- Where a value is entered as an object, that object is all that is seen in it. -/
theorem views_of_entered {j : Json} {members : Dict Json} (entered : j.entered = .obj members) :
    j.views = [some members] := by
  cases j with
  | obj own =>
    cases entered
    exact views_obj members
  | str text =>
    rw [views]
    cases read : interpret text with
    | none => simp [Json.entered, read] at entered
    | some value =>
      simp only [Json.entered, read, Option.getD_some] at entered
      rw [entered]
  | _ => cases entered

/-- The search for objects always ends somewhere. -/
theorem views_ne_nil : ∀ j : Json, j.views ≠ []
  | .arr (item :: items) => by
      rw [views, viewsAll]
      intro empty
      exact views_ne_nil item (List.append_eq_nil_iff.mp empty).1
  | .str text => by
      rw [views]
      split
      · exact List.cons_ne_nil _ _
      · split
        · exact views_ne_nil _
        · exact List.cons_ne_nil _ _
      · exact List.cons_ne_nil _ _
  | .arr [] => by rw [views]; exact List.cons_ne_nil _ _
  | .obj _ => by rw [views]; exact List.cons_ne_nil _ _
  | .null => by rw [views]; exact List.cons_ne_nil _ _
  | .bool _ => by rw [views]; exact List.cons_ne_nil _ _
  | .num _ => by rw [views]; exact List.cons_ne_nil _ _
termination_by j => j.weight
decreasing_by
  · simp only [weight, weightItems]
    omega
  · assumption

end Json

end VirtualService
