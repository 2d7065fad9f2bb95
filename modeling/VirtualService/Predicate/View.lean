/-
  VirtualService/Predicate/View.lean
  ==================================
  **Structure seen through arrays and texts.**

  Where a predicate expects an object, an actual array is searched item by item
  and a text is read as what it stands for, to any depth.  An array that a text
  stands for is only searched if it weighs less than the text, so the search
  ends; every such array does.

  `views` is the search that `satisfies` and `exists` make for an object, and
  `entered` is what `with_interpreted` makes of a text for `deep_equal`.
-/
import VirtualService.Predicate.Interpretation

namespace VirtualService

namespace Json

mutual

/-- The objects that are found in a value by going into arrays and reading texts, in order; `none`
    stands for each place where the search ends without an object. -/
def views : Json → List (Option (Dict Json))
  | .obj members => [some members]
  | .arr [] => [none]
  | .arr (item :: items) => viewsAll (item :: items)
  | .str text =>
      match interpret text with
      | some (.obj members) => [some members]
      | some (.arr items) =>
          if _ : (Json.arr items).weight < (Json.str text).weight then views (.arr items)
          else [none]
      | _ => [none]
  | .null => [none]
  | .bool _ => [none]
  | .num _ => [none]
termination_by j => j.weight
decreasing_by
  · simp only [weight]; omega
  · assumption

def viewsAll : List Json → List (Option (Dict Json))
  | [] => []
  | item :: items => views item ++ viewsAll items
termination_by items => weightItems items
decreasing_by
  · simp only [weightItems]; omega
  · simp only [weightItems]; omega

end

/-- A value, or in place of a text what it stands for. -/
def entered (j : Json) : Json :=
  match j with
  | .str text => (interpret text).getD (.str text)
  | other => other

end Json

end VirtualService
