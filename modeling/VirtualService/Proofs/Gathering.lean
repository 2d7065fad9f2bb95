/-
  VirtualService/Proofs/Gathering.lean
  ====================================
  **What a gathered object shows.**

  Pairs are gathered one after the other, and a member changes from a value to an
  array when its key comes again.  What stands under a key in the end depends on the
  values given to that key alone, in their order: nothing, the only one, or an array
  of all (`find?_gatherAll`).  This needs that none of the values is an array
  itself, for an array in the object counts as a gathered one.  No value is lost and
  none is made up (`valueTotal_gatherAll`).
-/
import Mathlib.Algebra.GroupWithZero.Nat
import VirtualService.Json.Basic
import VirtualService.Proofs.Dict

namespace VirtualService

/-! ### Values under one key -/

namespace Dict

variable {α β : Type}

/-- The values that a list of pairs gives to a key, in order. -/
def valuesOf (key : String) (pairs : List (String × α)) : List α :=
  (pairs.filter fun entry => entry.1 = key).map Prod.snd

theorem valuesOf_cons (key : String) (entry : String × α) (rest : List (String × α)) :
    valuesOf key (entry :: rest) =
      (if entry.1 = key then [entry.2] else []) ++ valuesOf key rest := by
  unfold valuesOf
  by_cases same : entry.1 = key <;> simp [same]

theorem valuesOf_append (key : String) (a b : List (String × α)) :
    valuesOf key (a ++ b) = valuesOf key a ++ valuesOf key b := by
  simp [valuesOf]

theorem valuesOf_map (key : String) (f : α → β) (pairs : List (String × α)) :
    valuesOf key (pairs.map fun entry => (entry.1, f entry.2)) = (valuesOf key pairs).map f := by
  simp [valuesOf, List.filter_map, Function.comp_def]

theorem valuesOf_eq_nil {key : String} {pairs : List (String × α)} :
    valuesOf key pairs = [] ↔ key ∉ pairs.map Prod.fst := by
  rw [valuesOf, List.map_eq_nil_iff, List.filter_eq_nil_iff, List.mem_map]
  simp only [decide_eq_true_eq, not_exists, not_and]

/-! ### Sums over the members -/

/-- An insertion adds one weight and takes that of the value it replaces. -/
theorem sum_insert {d : Dict α} (sorted : Sorted d) (k : String) (v : α)
    (w : α → Nat) :
    ((insert d k v).map fun entry => w entry.2).sum + ((find? d k).map w).getD 0 =
      (d.map fun entry => w entry.2).sum + w v := by
  induction d with
  | nil => simp [insert]
  | cons first rest ih =>
    obtain ⟨k', v'⟩ := first
    obtain ⟨above, sorted⟩ := sorted
    rw [insert, find?_cons]
    by_cases same : k = k'
    · subst same
      simp
      omega
    · have other : ¬k' = k := fun equal => same equal.symm
      by_cases below : k < k'
      · -- the keys ascend, so a key below the first one is not there
        have absent : find? rest k = none :=
          above.find?_eq_none (String.lt_asymm below)
        simp [same, other, below, absent]
        omega
      · have rest := ih sorted
        simp only [same, other, below, if_false, List.map_cons, List.sum_cons]
        omega

end Dict

namespace Json

open Dict (valuesOf valuesOf_cons)

/-! ### Values and arrays of them -/

/-- A value that is no array. -/
def Single (j : Json) : Prop := ∀ items, j ≠ .arr items

theorem single_str (s : String) : (Json.str s).Single := nofun

theorem single_obj (members : Dict Json) : (Json.obj members).Single := nofun

/-- What is shown of the values of a key. -/
def shown : List Json → Option Json
  | [] => none
  | [j] => some j
  | js => some (.arr js)

theorem shown_eq_none {values : List Json} : shown values = none ↔ values = [] := by
  rcases values with - | ⟨a, - | ⟨b, rest⟩⟩ <;> simp [shown]

theorem shown_toList (value : Option Json) : shown value.toList = value := by
  cases value <;> rfl

theorem shown_several {values : List Json} (several : 2 ≤ values.length) :
    shown values = some (.arr values) := by
  rcases values with - | ⟨a, - | ⟨b, rest⟩⟩
  · simp at several
  · simp at several
  · rfl

/-! ### One pair more -/

variable {members : Dict Json} {values : List Json} {key : String} {j : Json}

theorem find?_gather_self (single : ∀ v ∈ values, v.Single)
    (stands : Dict.find? members key = shown values) :
    Dict.find? (gather members key j) key = shown (values ++ [j]) := by
  unfold gather
  rcases values with - | ⟨a, - | ⟨b, rest⟩⟩
  · have absent : Dict.find? members key = none := stands
    simp [absent, Dict.find?_insert, shown]
  · -- the first value becomes an array, for it is none yet
    have found : Dict.find? members key = some a := stands
    rw [found]
    split
    · next none => cases none
    · next items array => exact absurd (Option.some.inj array) (single a List.mem_cons_self items)
    · next first _ same =>
      obtain rfl := Option.some.inj same
      simp [Dict.find?_insert, shown]
  · have found : Dict.find? members key = some (.arr (a :: b :: rest)) := stands
    simp [found, Dict.find?_insert, shown]

theorem find?_gather_ne {other : String} (different : key ≠ other) :
    Dict.find? (gather members key j) other = Dict.find? members other := by
  unfold gather
  split <;> simp [Dict.find?_insert, different]

theorem gather_sorted (sorted : Dict.Sorted members) (key : String) (j : Json) :
    Dict.Sorted (gather members key j) := by
  unfold gather
  split <;> exact Dict.sorted_insert sorted _ _

/-! ### All pairs -/

/-- Under a key stands what is shown of the values that were there and those that the pairs give. -/
theorem find?_gatherAll {pairs : List (String × Json)} (single : ∀ v ∈ values, v.Single)
    (stands : Dict.find? members key = shown values) (given : ∀ entry ∈ pairs, entry.2.Single) :
    Dict.find? (gatherAll members pairs) key = shown (values ++ valuesOf key pairs) := by
  -- the values read so far move from the pairs to the object
  induction pairs generalizing members values with
  | nil => simpa [gatherAll, valuesOf] using stands
  | cons entry rest ih =>
    have later : ∀ entry ∈ rest, entry.2.Single := fun e mem => given e (List.mem_cons_of_mem _ mem)
    rw [gatherAll, List.foldl_cons, valuesOf_cons]
    by_cases same : entry.1 = key
    · have more : ∀ v ∈ values ++ [entry.2], v.Single := by
        intro v mem
        rcases List.mem_append.mp mem with old | new
        · exact single v old
        · rw [List.mem_singleton.mp new]
          exact given entry List.mem_cons_self
      have next : Dict.find? (gather members entry.1 entry.2) key = shown (values ++ [entry.2]) := by
        rw [same]
        exact find?_gather_self single stands
      rw [if_pos same, ← List.append_assoc]
      exact ih more next later
    · have next : Dict.find? (gather members entry.1 entry.2) key = shown values := by
        rw [find?_gather_ne same, stands]
      rw [if_neg same, List.nil_append]
      exact ih single next later

theorem gatherAll_sorted (sorted : Dict.Sorted members) (pairs : List (String × Json)) :
    Dict.Sorted (gatherAll members pairs) := by
  induction pairs generalizing members with
  | nil => exact sorted
  | cons entry rest ih => exact ih (gather_sorted sorted entry.1 entry.2)

/-! ### Nothing is lost -/

/-- How many values a member stands for. -/
def valueCount : Json → Nat
  | .arr items => items.length
  | _ => 1

theorem valueCount_arr (items : List Json) : valueCount (.arr items) = items.length := rfl

theorem valueCount_single (single : j.Single) : valueCount j = 1 := by
  cases j with
  | arr items => exact absurd rfl (single items)
  | _ => rfl

/-- How many values an object holds. -/
def valueTotal (members : Dict Json) : Nat := (members.map fun entry => valueCount entry.2).sum

theorem valueTotal_gather (sorted : Dict.Sorted members) (key : String) (single : j.Single) :
    valueTotal (gather members key j) = valueTotal members + 1 := by
  have inserted (v : Json) := Dict.sum_insert sorted key v valueCount
  unfold gather valueTotal
  split
  · next absent =>
    have sum := inserted j
    rw [absent, valueCount_single single] at sum
    exact sum
  · next items found =>
    have sum := inserted (.arr (items ++ [j]))
    rw [found, Option.map_some, Option.getD_some, valueCount_arr, valueCount_arr,
      List.length_append, List.length_singleton] at sum
    omega
  · next first array found =>
    have notArray : first.Single := fun items equal => array items equal
    have sum := inserted (.arr [first, j])
    rw [found, Option.map_some, Option.getD_some, valueCount_single notArray, valueCount_arr] at sum
    simp only [List.length_cons, List.length_nil] at sum
    omega

theorem valueTotal_gatherAll (sorted : Dict.Sorted members) {pairs : List (String × Json)}
    (given : ∀ entry ∈ pairs, entry.2.Single) :
    valueTotal (gatherAll members pairs) = valueTotal members + pairs.length := by
  induction pairs generalizing members with
  | nil => rfl
  | cons entry rest ih =>
    have step := valueTotal_gather sorted entry.1 (given entry List.mem_cons_self)
    have later := ih (gather_sorted sorted entry.1 entry.2)
      fun e mem => given e (List.mem_cons_of_mem _ mem)
    rw [gatherAll, List.foldl_cons]
    rw [gatherAll] at later
    rw [later, step, List.length_cons]
    omega

end Json

end VirtualService
