/-
  VirtualService/Dict.lean
  ========================
  **Finite maps from text to values, in the order of their keys.**

  A dictionary is the list of its entries in ascending key order, without a
  repeated key.  Keys are compared code point by code point, which is also the
  order of their UTF-8 bytes.  The order is part of what a dictionary shows:
  "the first key" of a map always means the least one.
-/

namespace VirtualService

/-- The entries of a finite map, in ascending order of their keys. -/
abbrev Dict (α : Type) := List (String × α)

namespace Dict

variable {α β : Type}

/-! ### Reading -/

/-- The value stored under a key. -/
def find? (d : Dict α) (key : String) : Option α :=
  match d with
  | [] => none
  | (k, v) :: rest => if k = key then some v else find? rest key

/-- Whether a key is present. -/
def contains (d : Dict α) (key : String) : Bool := (find? d key).isSome

/-- The keys, in ascending order. -/
def keys (d : Dict α) : List String := List.map Prod.fst d

/-! ### Writing -/

/-- Store a value under a key, in place of an earlier one. -/
def insert (d : Dict α) (key : String) (value : α) : Dict α :=
  match d with
  | [] => [(key, value)]
  | (k, v) :: rest =>
      if key = k then (key, value) :: rest
      else if key < k then (key, value) :: (k, v) :: rest
      else (k, v) :: insert rest key value

/-- Drop a key. -/
def erase (d : Dict α) (key : String) : Dict α := List.filter (fun entry => entry.1 != key) d

/-- Store each pair in turn: of two pairs with one key the later counts. -/
def ofList (pairs : List (String × α)) : Dict α :=
  List.foldl (fun d entry => insert d entry.1 entry.2) [] pairs

/-- Apply a function to every value. -/
def mapValues (f : α → β) (d : Dict α) : Dict β := List.map (fun entry => (entry.1, f entry.2)) d

/-- Every key of the list is above `bound`. -/
def Above (bound : String) (d : Dict α) : Prop := ∀ entry ∈ d, bound < entry.1

/-- The keys ascend strictly. -/
def Sorted : Dict α → Prop
  | [] => True
  | (k, _) :: rest => Above k rest ∧ Sorted rest

end Dict

end VirtualService
