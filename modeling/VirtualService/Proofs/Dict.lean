/-
  VirtualService/Proofs/Dict.lean
  ===============================
  **The theory of dictionaries.**

  A dictionary whose keys ascend is determined by what is stored under each key
  (`ext_of_sorted`).  So every equation between dictionaries that arises when a
  record is written and read again (an insertion, a filter, a rebuilt list of
  pairs) is settled by comparing lookups, and the order of the entries never has
  to be followed.
-/
import VirtualService.Dict

namespace VirtualService.Dict

variable {α β ε : Type}

/-! ### Lookup -/

@[simp] theorem find?_nil (key : String) : find? ([] : Dict α) key = none := rfl

theorem find?_cons (k : String) (v : α) (rest : Dict α) (key : String) :
    find? ((k, v) :: rest) key = if k = key then some v else find? rest key := rfl

@[simp] theorem find?_cons_self (k : String) (v : α) (rest : Dict α) :
    find? ((k, v) :: rest) k = some v := by
  simp [find?_cons]

@[simp] theorem find?_cons_of_ne {k key : String} (v : α) (rest : Dict α) (h : k ≠ key) :
    find? ((k, v) :: rest) key = find? rest key := by
  simp [find?_cons, h]

theorem find?_append (a b : Dict α) (key : String) :
    find? (a ++ b) key = (find? a key).or (find? b key) := by
  induction a with
  | nil => simp
  | cons entry rest ih =>
    obtain ⟨k, v⟩ := entry
    rw [List.cons_append, find?_cons, find?_cons]
    split
    · rfl
    · exact ih

theorem mem_of_find? {d : Dict α} {key : String} {v : α} (h : find? d key = some v) :
    (key, v) ∈ d := by
  induction d with
  | nil => simp at h
  | cons entry rest ih =>
    obtain ⟨k, w⟩ := entry
    rw [find?_cons] at h
    split at h
    · next hk => cases h; subst hk; exact List.mem_cons_self
    · exact List.mem_cons_of_mem _ (ih h)

/-- A key under which no entry stands has no value. -/
theorem find?_eq_none {d : Dict α} {key : String} (h : ∀ entry ∈ d, entry.1 ≠ key) :
    find? d key = none := by
  cases found : find? d key with
  | none => rfl
  | some v => exact absurd rfl (h _ (mem_of_find? found))

theorem find?_filter (d : Dict α) (p : String → Bool) (key : String) :
    find? (List.filter (fun entry => p entry.1) d) key = if p key then find? d key else none := by
  induction d with
  | nil => simp
  | cons entry rest ih =>
    obtain ⟨k, v⟩ := entry
    rw [List.filter_cons, find?_cons]
    by_cases hk : k = key
    · subst hk
      by_cases hp : p k <;> simp [hp, ih]
    · by_cases hp : p k <;> simp [hp, hk, ih]

theorem find?_erase (d : Dict α) (dropped key : String) :
    find? (erase d dropped) key = if key = dropped then none else find? d key := by
  have kept := find?_filter d (fun k => k != dropped) key
  rw [show erase d dropped = List.filter (fun entry => entry.1 != dropped) d from rfl, kept]
  by_cases h : key = dropped <;> simp [h]

theorem mem_keys {d : Dict α} {key : String} : key ∈ keys d ↔ find? d key ≠ none := by
  induction d with
  | nil => simp [keys]
  | cons first rest ih =>
    rw [keys] at ih ⊢
    rw [List.map_cons, List.mem_cons, find?_cons, ih, eq_comm]
    by_cases same : first.1 = key <;> simp [same]

theorem find?_insert (d : Dict α) (k : String) (v : α) (key : String) :
    find? (insert d k v) key = if k = key then some v else find? d key := by
  induction d with
  | nil => rfl
  | cons entry rest ih =>
    obtain ⟨k', v'⟩ := entry
    rw [insert]
    split
    · next heq =>
      subst heq
      by_cases h : k = key <;> simp [h]
    · split
      · rfl
      · rw [find?_cons, ih, find?_cons]
        by_cases h : k = key <;> by_cases h' : k' = key <;> simp_all

/-- Of two pairs with one key the later counts: a lookup goes through the pairs from the end. -/
theorem find?_ofList (pairs : List (String × α)) (key : String) :
    find? (ofList pairs) key = find? pairs.reverse key := by
  have step : ∀ (pairs : List (String × α)) (d : Dict α),
      find? (pairs.foldl (fun d entry => insert d entry.1 entry.2) d) key =
        (find? pairs.reverse key).or (find? d key) := by
    intro pairs
    induction pairs with
    | nil => intro d; simp
    | cons entry rest ih =>
      intro d
      obtain ⟨k, v⟩ := entry
      rw [List.foldl_cons, ih, find?_insert, List.reverse_cons, find?_append, Option.or_assoc]
      congr 1
      by_cases h : k = key <;> simp [h]
  rw [ofList, step pairs [], find?_nil, Option.or_none]

/-! ### Ascending keys -/

@[simp] theorem sorted_nil : Sorted ([] : Dict α) := trivial

@[simp] theorem sorted_cons {k : String} {v : α} {rest : Dict α} :
    Sorted ((k, v) :: rest) ↔ Above k rest ∧ Sorted rest := Iff.rfl

theorem Above.find?_eq_none {bound : String} {d : Dict α} (h : Above bound d) {key : String}
    (below : ¬bound < key) : find? d key = none := by
  apply Dict.find?_eq_none
  intro entry mem heq
  exact below (heq ▸ h entry mem)

theorem mem_insert {d : Dict α} {k : String} {v : α} {entry : String × α}
    (mem : entry ∈ insert d k v) : entry = (k, v) ∨ entry ∈ d := by
  induction d with
  | nil => simpa [insert] using mem
  | cons first rest ih =>
    obtain ⟨k', v'⟩ := first
    rw [insert] at mem
    split at mem
    · rcases List.mem_cons.mp mem with h | h
      · exact .inl h
      · exact .inr (List.mem_cons_of_mem _ h)
    · split at mem
      · exact List.mem_cons.mp mem
      · rcases List.mem_cons.mp mem with h | h
        · exact .inr (h ▸ List.mem_cons_self)
        · exact (ih h).imp id (List.mem_cons_of_mem _)

theorem sorted_insert {d : Dict α} (h : Sorted d) (k : String) (v : α) : Sorted (insert d k v) := by
  induction d with
  | nil => exact ⟨fun _ mem => absurd mem List.not_mem_nil, trivial⟩
  | cons first rest ih =>
    obtain ⟨k', v'⟩ := first
    obtain ⟨above, sorted⟩ := h
    rw [insert]
    split
    · next heq => exact ⟨heq ▸ above, sorted⟩
    · next hne =>
      split
      · next hlt =>
        refine ⟨fun entry mem => ?_, above, sorted⟩
        rcases List.mem_cons.mp mem with rfl | mem
        · exact hlt
        · exact String.lt_trans hlt (above entry mem)
      · next hge =>
        refine ⟨fun entry mem => ?_, ih sorted⟩
        rcases mem_insert mem with rfl | mem
        · exact Decidable.byContradiction fun hle =>
            hne (String.le_antisymm (String.not_lt.mp hle) (String.not_lt.mp hge))
        · exact above entry mem

theorem mem_ofList {pairs : List (String × α)} {entry : String × α} (mem : entry ∈ ofList pairs) :
    entry ∈ pairs := by
  have step : ∀ (pairs : List (String × α)) (d : Dict α),
      entry ∈ pairs.foldl (fun d entry => insert d entry.1 entry.2) d →
        entry ∈ pairs ∨ entry ∈ d := by
    intro pairs
    induction pairs with
    | nil => exact fun d mem => .inr mem
    | cons first rest ih =>
      intro d mem
      rcases ih _ mem with h | h
      · exact .inl (List.mem_cons_of_mem _ h)
      · rcases mem_insert h with h | h
        · exact .inl (h ▸ List.mem_cons_self)
        · exact .inr h
  exact (step pairs [] mem).elim id fun h => absurd h List.not_mem_nil

theorem sorted_ofList (pairs : List (String × α)) : Sorted (ofList pairs) := by
  have step : ∀ (pairs : List (String × α)) (d : Dict α), Sorted d →
      Sorted (pairs.foldl (fun d entry => insert d entry.1 entry.2) d) := by
    intro pairs
    induction pairs with
    | nil => exact fun d h => h
    | cons first rest ih => exact fun d h => ih _ (sorted_insert h _ _)
  exact step pairs [] sorted_nil

theorem sorted_filter {d : Dict α} (h : Sorted d) (p : String × α → Bool) :
    Sorted (List.filter p d) := by
  induction d with
  | nil => exact h
  | cons first rest ih =>
    obtain ⟨above, sorted⟩ := h
    rw [List.filter_cons]
    split
    · exact ⟨fun entry mem => above entry (List.mem_filter.mp mem).1, ih sorted⟩
    · exact ih sorted

theorem sorted_erase {d : Dict α} (h : Sorted d) (key : String) : Sorted (erase d key) :=
  sorted_filter h _

theorem Sorted.keys_nodup {d : Dict α} (h : Sorted d) : (keys d).Nodup := by
  induction d with
  | nil => exact List.nodup_nil
  | cons first rest ih =>
    obtain ⟨k, v⟩ := first
    refine List.nodup_cons.mpr ⟨fun again => ?_, ih h.2⟩
    obtain ⟨entry, mem, same⟩ := List.mem_map.mp again
    have above := h.1 entry mem
    rw [same] at above
    exact String.lt_irrefl k above

theorem find?_of_mem {d : Dict α} (distinct : (keys d).Nodup) {entry : String × α}
    (mem : entry ∈ d) : find? d entry.1 = some entry.2 := by
  induction d with
  | nil => cases mem
  | cons first rest ih =>
    obtain ⟨fresh, later⟩ := List.nodup_cons.mp distinct
    rcases List.mem_cons.mp mem with rfl | old
    · exact find?_cons_self _ _ _
    · have different : first.1 ≠ entry.1 := by
        intro same
        exact fresh (same ▸ List.mem_map_of_mem old)
      obtain ⟨k, v⟩ := first
      rw [find?_cons_of_ne v rest different]
      exact ih later old

/-- Whether a dictionary ascends is a matter of its keys alone. -/
theorem sorted_of_keys {a : Dict α} {b : Dict β} (keys : List.map Prod.fst a = List.map Prod.fst b)
    (h : Sorted b) : Sorted a := by
  induction a generalizing b with
  | nil => trivial
  | cons first rest ih =>
    cases b with
    | nil => simp at keys
    | cons first' rest' =>
      obtain ⟨above, sorted⟩ := h
      rw [List.map_cons, List.map_cons, List.cons.injEq] at keys
      refine ⟨fun entry mem => ?_, ih keys.2 sorted⟩
      have stands : entry.1 ∈ List.map Prod.fst rest' := keys.2 ▸ List.mem_map_of_mem mem
      obtain ⟨other, memOther, heq⟩ := List.mem_map.mp stands
      rw [← heq, show first.1 = first'.1 from keys.1]
      exact above other memOther

/-! ### Equality by lookup -/

/-- Dictionaries with ascending keys are equal if they show the same under every key. -/
theorem ext_of_sorted {a b : Dict α} (ha : Sorted a) (hb : Sorted b)
    (same : ∀ key, find? a key = find? b key) : a = b := by
  induction a generalizing b with
  | nil =>
    cases b with
    | nil => rfl
    | cons first rest =>
      obtain ⟨k, v⟩ := first
      simpa using same k
  | cons first rest ih =>
    obtain ⟨k, v⟩ := first
    cases b with
    | nil => simpa using same k
    | cons first' rest' =>
      obtain ⟨k', v'⟩ := first'
      obtain ⟨above, sorted⟩ := ha
      obtain ⟨above', sorted'⟩ := hb
      -- The least key of either side is looked up in the other, which has none below its own.
      have hk : k = k' := by
        by_cases heq : k = k'
        · exact heq
        · have not_gt : ¬k' < k := by
            intro hlt
            have found := same k'
            rw [find?_cons_of_ne _ _ heq, find?_cons_self,
              above.find?_eq_none (String.lt_asymm hlt)] at found
            simp at found
          have not_lt : ¬k < k' := by
            intro hlt
            have found := same k
            rw [find?_cons_of_ne _ _ (Ne.symm heq), find?_cons_self,
              above'.find?_eq_none (String.lt_asymm hlt)] at found
            simp at found
          exact String.le_antisymm (String.not_lt.mp not_gt) (String.not_lt.mp not_lt)
      subst hk
      have hv : v = v' := by simpa using same k
      have hrest : rest = rest' := by
        refine ih sorted sorted' fun key => ?_
        by_cases heq : k = key
        · subst heq
          rw [above.find?_eq_none (String.lt_irrefl k), above'.find?_eq_none (String.lt_irrefl k)]
        · simpa [find?_cons, heq] using same key
      rw [hv, hrest]

theorem find?_reverse_of_sorted {d : Dict α} (h : Sorted d) (key : String) :
    find? d.reverse key = find? d key := by
  induction d with
  | nil => rfl
  | cons first rest ih =>
    obtain ⟨k, v⟩ := first
    obtain ⟨above, sorted⟩ := h
    rw [List.reverse_cons, find?_append, ih sorted, find?_cons]
    split
    · next heq =>
      subst heq
      rw [above.find?_eq_none (String.lt_irrefl k)]
      simp
    · next hne => simp [hne]

theorem mapM_values (f : α → β) (d : Dict α) (g : β → Except ε α)
    (h : ∀ entry ∈ d, g (f entry.2) = .ok entry.2) :
    (mapValues f d).mapM (fun entry => (g entry.2).map fun a => (entry.1, a)) = .ok d := by
  induction d with
  | nil => rfl
  | cons first rest ih =>
    rw [mapValues, List.map_cons, List.mapM_cons, h first List.mem_cons_self]
    have tail := ih fun entry mem => h entry (List.mem_cons_of_mem _ mem)
    rw [mapValues] at tail
    rw [tail]
    rfl

end VirtualService.Dict
