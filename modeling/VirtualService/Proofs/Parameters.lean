/-
  VirtualService/Proofs/Parameters.lean
  =====================================
  **What a query string says.**

  A query string is cut at its ampersands, and each segment that is not empty at its
  first equals sign.  The pairs are told here by the library's own cutting of lists
  (`Query.pairs_eq`), and the object that is read groups them by key
  (`Query.parse_groups`): a key that comes once has its value, a key that comes more
  often the array of its values in the order in which they come.  Different spellings
  of a key are one key, since keys are compared after they are decoded.
-/
import Mathlib.Data.List.TakeWhile
import VirtualService.Proofs.Gathering
import VirtualService.Query

namespace VirtualService

/-! ### Cutting -/

namespace Split

theorem pieces_eq_splitOn (mark : Char) (cs : List Char) : pieces mark cs = cs.splitOn mark := by
  induction cs with
  | nil => rfl
  | cons c cs ih =>
    have cut := List.splitOnP_cons_eq_if_modifyHead (p := (· == mark)) c cs
    rw [List.splitOn, cut, pieces, ih, List.splitOn]
    by_cases same : c = mark
    · simp [same]
    · rw [if_neg same, if_neg (by simpa using same)]
      cases rest : List.splitOnP (· == mark) cs with
      | nil => exact absurd rest (List.splitOnP_ne_nil _ _)
      | cons piece pieces => rfl

theorem first?_eq (mark : Char) (cs : List Char) :
    first? mark cs =
      if mark ∈ cs then some (cs.takeWhile (· ≠ mark), (cs.dropWhile (· ≠ mark)).tail)
      else none := by
  induction cs with
  | nil => rfl
  | cons c cs ih =>
    rw [first?, ih]
    by_cases same : c = mark
    · simp [same]
    · have other : ¬mark = c := fun equal => same equal.symm
      by_cases later : mark ∈ cs <;> simp [same, other, later]

end Split

namespace Query

/-! ### The pairs of a query string -/

/-- What stands between the ampersands, as far as anything does. -/
def segments (query : String) : List (List Char) :=
  (query.toList.splitOn '&').filter fun segment => segment ≠ []

/-- The key of a segment: what stands before its first equals sign. -/
def keyOf (segment : List Char) : String := decode (segment.takeWhile (· ≠ '='))

/-- The value of a segment: what stands after its first equals sign, if there is one. -/
def valueOf (segment : List Char) : String := decode (segment.dropWhile (· ≠ '=')).tail

theorem pair_eq (segment : List Char) : pair segment = (keyOf segment, valueOf segment) := by
  rw [pair, Split.first?_eq]
  by_cases marked : '=' ∈ segment
  · rw [if_pos marked]
    rfl
  · have whole : ∀ c ∈ segment, decide (c ≠ '=') = true := by
      intro c mem
      have different : c ≠ '=' := fun same => marked (same ▸ mem)
      simpa using different
    have empty : decode [] = "" := by decide +kernel
    rw [if_neg marked, keyOf, valueOf, List.takeWhile_eq_self_iff.mpr whole,
      List.dropWhile_eq_nil_iff.mpr whole, List.tail_nil, empty]

theorem pairs_eq (query : String) :
    pairs query = (segments query).map fun segment => (keyOf segment, valueOf segment) := by
  have kept : (fun segment : List Char => !segment.isEmpty) = fun segment => decide (segment ≠ []) := by
    funext segment
    cases segment <;> rfl
  rw [pairs, Split.pieces_eq_splitOn, kept]
  exact List.map_congr_left fun segment _ => pair_eq segment

/-! ### The object -/

theorem parse_sorted (query : String) : Dict.Sorted (parse query) :=
  Json.gatherAll_sorted Dict.sorted_nil _

/-- Only texts are gathered from a query string. -/
theorem single_of_pairs (query : String) :
    ∀ entry ∈ (pairs query).map fun pair => (pair.1, Json.str pair.2), entry.2.Single := by
  intro entry mem
  obtain ⟨pair, -, rfl⟩ := List.mem_map.mp mem
  exact Json.single_str pair.2

theorem find?_parse (query key : String) :
    Dict.find? (parse query) key =
      Json.shown ((Dict.valuesOf key (pairs query)).map Json.str) := by
  have nothing : ∀ v ∈ ([] : List Json), v.Single := nofun
  rw [← Dict.valuesOf_map]
  exact Json.find?_gatherAll nothing rfl (single_of_pairs query)

/-- The object of a query string has the keys of its pairs; a key with one value stands for it, and a
    key with several for the array of them in order.  So there are as many values as there are
    segments with anything in them. -/
theorem parse_groups (query : String) :
    let given := (segments query).map fun segment => (keyOf segment, valueOf segment)
    Dict.Sorted (parse query) ∧
    (∀ key, key ∈ Dict.keys (parse query) ↔ key ∈ given.map Prod.fst) ∧
    (∀ key value, Dict.valuesOf key given = [value] →
      Dict.find? (parse query) key = some (.str value)) ∧
    (∀ key, 2 ≤ (Dict.valuesOf key given).length →
      Dict.find? (parse query) key = some (.arr ((Dict.valuesOf key given).map Json.str))) ∧
    Json.valueTotal (parse query) = (segments query).length := by
  intro given
  have same : pairs query = given := pairs_eq query
  have under (key : String) := find?_parse query key
  rw [same] at under
  refine ⟨parse_sorted query, ?_, ?_, ?_, ?_⟩
  · intro key
    rw [Dict.mem_keys, under, Ne, Json.shown_eq_none, List.map_eq_nil_iff, Dict.valuesOf_eq_nil,
      not_not]
  · intro key value once
    rw [under, once]
    rfl
  · intro key often
    rw [under, Json.shown_several (by simpa using often)]
  · have total := Json.valueTotal_gatherAll Dict.sorted_nil (single_of_pairs query)
    rw [parse, total, List.length_map, pairs_eq, List.length_map]
    exact Nat.zero_add _

/-- Two spellings of one key, and segments without a value or with an equals sign in it. -/
example : parse "a=1&&%61=2=3&b" =
    [("a", .arr [.str "1", .str "2=3"]), ("b", .str "")] := rfl

end Query

end VirtualService
