/-
  VirtualService/Predicate/Comparison.lean
  ========================================
  **Comparing an actual value with an expected one.**

  Three comparisons: `satisfies`, where the expected value is a template that the
  actual one may exceed; `deepEqual`, where both have the same shape and arrays
  are compared regardless of order; and `present`, which asks only what is there.

  `satisfies`, `deepEqual` and `present` are `satisfies`, `deep_equal` and
  `exists`; `deepEqualItems` is `multiset_equal`, `absentMembers` is `all_absent`,
  and `scalar` is `scalar` of a comparison.
-/
import VirtualService.Predicate.Expected
import VirtualService.Predicate.View

namespace VirtualService

/-- How scalars and keys are compared. -/
structure Comparison where
  relation : TextRelation
  normalizer : Normalizer
  keyMatch : KeyMatch
deriving Inhabited

namespace Comparison

/-- A scalar against the expected one. -/
def scalar (c : Comparison) (expected : ExpectedScalar) (actual : Json) : Bool :=
  match expected with
  | .text normal => c.relation.holds (c.normalizer.normal actual.plainText) normal
  | .pattern regex => regex.isMatch (c.normalizer.strip actual.plainText)
  | .presence _ => false

/-- A part of a value against the expected scalar; objects and arrays are no scalars. -/
def part (c : Comparison) (expected : ExpectedScalar) (actual : Json) : Bool :=
  !actual.isStructured && c.scalar expected actual

/-! ### Templates -/

mutual

/-- The actual value has all that the template asks for.  A scalar may be any item of an array, an
    object any that the value shows, and each item of an array some item of the actual array. -/
def satisfies (c : Comparison) : Expected → Json → Bool
  | .scalar expected, actual => actual.opened.any (c.part expected)
  | .items children, actual =>
      match actual.entered with
      | .arr items => satisfiesItems c children items
      | _ => false
  | .members entries, actual =>
      actual.views.any fun view =>
        match view with
        | some members => satisfiesMembers c entries members
        | none => false

def satisfiesItems (c : Comparison) : List Expected → List Json → Bool
  | [], _ => true
  | child :: children, items =>
      (items.any fun item => satisfies c child item) && satisfiesItems c children items

def satisfiesMembers (c : Comparison) : List (String × Expected) → Dict Json → Bool
  | [], _ => true
  | (key, child) :: entries, members =>
      (match c.keyMatch.find? members key with
        | some value => satisfies c child value
        | none => false) && satisfiesMembers c entries members

end

/-! ### Presence -/

/-- Something is there; an empty text is nothing. -/
def isPresent : Option Json → Bool
  | none => false
  | some (.str text) => !text.isEmpty
  | some _ => true

mutual

/-- What should be there is there, and what should not is not.  An object is any that the value
    shows; where there is none, all of its members are absent. -/
def present (m : KeyMatch) : Expected → Option Json → Bool
  | .scalar (.presence flag), actual => flag == isPresent actual
  | .scalar _, _ => false
  | .items _, _ => false
  | .members entries, none => absentMembers m entries
  | .members entries, some actual =>
      actual.views.any fun view =>
        match view with
        | some members => presentMembers m entries members
        | none => absentMembers m entries

def presentMembers (m : KeyMatch) : List (String × Expected) → Dict Json → Bool
  | [], _ => true
  | (key, child) :: entries, members =>
      present m child (m.find? members key) && presentMembers m entries members

def absentMembers (m : KeyMatch) : List (String × Expected) → Bool
  | [] => true
  | (_, child) :: entries => present m child none && absentMembers m entries

end

/-! ### Deep equality -/

/-- The items without the first that passes a test, if one does. -/
def takeFirst {α : Type} (test : α → Bool) : List α → Option (List α)
  | [] => none
  | a :: rest => if test a then some rest else (takeFirst test rest).map fun rest => a :: rest

mutual

/-- The two have the same shape: the keys of an object claim distinct keys, as many as there are, and
    each item of an array is paired with an item of its own.  A text is read once for structure. -/
def deepEqual (c : Comparison) : Expected → Json → Bool
  | .scalar expected, actual => c.part expected actual
  | .items children, actual =>
      match actual.entered with
      | .arr items => children.length == items.length && deepEqualItems c children items
      | _ => false
  | .members entries, actual =>
      match actual.entered with
      | .obj members => entries.length == members.length && deepEqualMembers c entries members []
      | _ => false

/-- Each expected item takes the first actual item left that is deep equal to it. -/
def deepEqualItems (c : Comparison) : List Expected → List Json → Bool
  | [], _ => true
  | child :: children, items =>
      match takeFirst (fun item => deepEqual c child item) items with
      | some rest => deepEqualItems c children rest
      | none => false

def deepEqualMembers (c : Comparison) :
    List (String × Expected) → Dict Json → List String → Bool
  | [], _, _ => true
  | (key, child) :: entries, members, claimed =>
      match c.keyMatch.lookup? members key with
      | some (actualKey, value) =>
          !claimed.contains actualKey && deepEqual c child value &&
            deepEqualMembers c entries members (actualKey :: claimed)
      | none => false

end

end Comparison

end VirtualService
