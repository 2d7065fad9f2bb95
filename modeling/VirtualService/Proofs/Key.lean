/-
  VirtualService/Proofs/Key.lean
  ==============================
  **Keys that are told apart.**

  Under a policy of comparing keys some members of an object may be out of reach,
  because an earlier key agrees with theirs.  Where no two keys agree, every member
  is the one that its own key finds (`KeyMatch.Apart.lookup?`), and keys that are
  apart in lower case find the same member under either policy.
-/
import Mathlib.Data.List.Nodup
import VirtualService.Predicate.Key

namespace VirtualService

namespace KeyMatch

variable {α : Type} {m : KeyMatch} {members : Dict α} {key : String} {entry : String × α}

/-- No two keys agree. -/
def Apart (m : KeyMatch) (members : Dict α) : Prop :=
  (members.map fun entry => m.form entry.1).Nodup

instance (m : KeyMatch) (members : Dict α) : Decidable (m.Apart members) :=
  inferInstanceAs (Decidable (List.Nodup _))

theorem lookup?_eq_some (h : m.lookup? members key = some entry) :
    entry ∈ members ∧ m.form entry.1 = m.form key :=
  ⟨List.mem_of_find?_eq_some h, by simpa using List.find?_some h⟩

theorem Apart.lookup? (apart : m.Apart members) (mem : entry ∈ members)
    (agree : m.form entry.1 = m.form key) : m.lookup? members key = some entry := by
  have some : (m.lookup? members key).isSome :=
    List.find?_isSome.mpr ⟨entry, mem, beq_iff_eq.mpr agree⟩
  obtain ⟨found, there⟩ := Option.isSome_iff_exists.mp some
  obtain ⟨memFound, agrees⟩ := lookup?_eq_some there
  rw [there, List.inj_on_of_nodup_map apart memFound mem (agrees.trans agree.symm)]

/-- Compared as they are, keys find what they stand for. -/
theorem find?_exact (members : Dict α) (key : String) :
    exact.find? members key = Dict.find? members key := by
  induction members with
  | nil => rfl
  | cons entry members ih =>
    obtain ⟨k, value⟩ := entry
    rw [find?, KeyMatch.lookup?, List.find?_cons, Dict.find?]
    by_cases same : k = key
    · simp [form, same]
    · have differ : (k == key) = false := by simpa using same
      rw [if_neg same, ← ih]
      simp [form, differ, find?, KeyMatch.lookup?]

theorem form_folded {a b : String} (agree : m.form a = m.form b) :
    folded.form a = folded.form b := by
  cases m with
  | folded => exact agree
  | exact => exact congrArg folded.form agree

/-- Where keys are apart in lower case, either policy finds what lower case finds, if anything. -/
theorem Apart.find?_folded (apart : folded.Apart members) {value : α}
    (found : m.find? members key = some value) : folded.find? members key = some value := by
  obtain ⟨entry, there, rfl⟩ := Option.map_eq_some_iff.mp found
  obtain ⟨mem, agree⟩ := lookup?_eq_some there
  rw [find?, apart.lookup? mem (form_folded agree), Option.map_some]

theorem Apart.keys_nodup (apart : m.Apart members) : (members.map Prod.fst).Nodup := by
  unfold Apart at apart
  rw [show (fun entry : String × α => m.form entry.1) = m.form ∘ Prod.fst from rfl,
    ← List.map_map] at apart
  exact apart.of_map

/-- A member under a key that no other agrees with is what the key finds. -/
theorem Apart.find? {value : α} (apart : m.Apart members) (mem : (key, value) ∈ members) :
    Dict.find? members key = some value := by
  have own : exact.lookup? members key = some (key, value) :=
    Apart.lookup? (m := exact) apart.keys_nodup mem rfl
  rw [← find?_exact, KeyMatch.find?, own, Option.map_some]

end KeyMatch

namespace Json

mutual

/-- In no object, at any depth, do two keys agree. -/
def Apart (m : KeyMatch) : Json → Prop
  | .null => True
  | .bool _ => True
  | .num _ => True
  | .str _ => True
  | .arr items => ApartItems m items
  | .obj members => m.Apart members ∧ ApartMembers m members

def ApartItems (m : KeyMatch) : List Json → Prop
  | [] => True
  | item :: items => Apart m item ∧ ApartItems m items

def ApartMembers (m : KeyMatch) : List (String × Json) → Prop
  | [] => True
  | (_, value) :: members => Apart m value ∧ ApartMembers m members

end

variable {m : KeyMatch}

theorem apart_scalar {j : Json} (scalar : j.isStructured = false) : j.Apart m := by
  cases j with
  | arr items => cases scalar
  | obj members => cases scalar
  | _ => trivial

theorem apart_arr {items : List Json} : (Json.arr items).Apart m ↔ ∀ item ∈ items, item.Apart m := by
  rw [Apart]
  induction items with
  | nil => simp [ApartItems]
  | cons item items ih => simp [ApartItems, ih]

theorem apartMembers_iff {members : List (String × Json)} :
    ApartMembers m members ↔ ∀ member ∈ members, member.2.Apart m := by
  induction members with
  | nil => simp [ApartMembers]
  | cons member members ih => simp [ApartMembers, ih]

theorem apart_obj {members : Dict Json} :
    (Json.obj members).Apart m ↔ m.Apart members ∧ ∀ member ∈ members, member.2.Apart m := by
  rw [Apart, apartMembers_iff]

end Json

end VirtualService
