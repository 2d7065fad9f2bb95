/-
  VirtualService/Proofs/TextsWithin.lean
  ======================================
  **Texts within a JSON text are shorter.**

  Whatever text stands in the value that a JSON text holds, as a value or as a key,
  takes up fewer bytes than the JSON text (`text_shorter`): it was read from a part of
  it between two quotes, and no escape is shorter than the character it stands for.
-/
import VirtualService.Proofs.Weight

namespace VirtualService.Json

/-- A text stands in a value, as a value or as a key. -/
inductive HasText (s : String) : Json → Prop
  | text : HasText s (.str s)
  | item {items : List Json} {j : Json} (mem : j ∈ items) (within : HasText s j) :
      HasText s (.arr items)
  | key {members : Dict Json} {j : Json} (mem : (s, j) ∈ members) : HasText s (.obj members)
  | member {members : Dict Json} {key : String} {j : Json} (mem : (key, j) ∈ members)
      (within : HasText s j) : HasText s (.obj members)

variable {cost : Char → Nat} {s : String}

section Step

-- what is read with the fuel that is left after one step
variable {fuel : Nat} {room : Nat} {cs rest : List Char} (fair : Fair cost)
  (value : ∀ {room cs j rest}, value? fuel room cs = some (j, rest) → HasText s j →
    total cost s.toList + total cost rest < total cost cs)
  (items : ∀ {room cs read rest}, items? fuel room cs = some (read, rest) →
    ∀ j ∈ read, HasText s j → total cost s.toList + total cost rest < total cost cs)
  (members : ∀ {room cs read rest}, members? fuel room cs = some (read, rest) →
    ∀ entry ∈ read, s = entry.1 ∨ HasText s entry.2 →
      total cost s.toList + total cost rest < total cost cs)

include fair items members in
theorem text_value {j : Json} (read : value? (fuel + 1) room cs = some (j, rest))
    (has : HasText s j) : total cost s.toList + total cost rest < total cost cs := by
  rw [value?.eq_def] at read
  dsimp only at read
  split at read
  · cases read
    cases has
  · cases read
    cases has
  · cases read
    cases has
  · next lead =>
    obtain ⟨⟨t, after⟩, found, same⟩ := Option.map_eq_some_iff.mp read
    cases same
    cases has
    dsimp only
    have mark := fair.mark lead
    have text := fair.text found
    rw [weightBy] at text
    omega
  · next inside lead =>
    have mark := fair.mark lead
    have skipped := total_skipBlanks cost inside
    split at read
    · cases read
    · split at read
      · cases read
        cases has with
        | item mem _ => cases mem
      · obtain ⟨⟨within, after⟩, found, same⟩ := Option.map_eq_some_iff.mp read
        cases same
        dsimp only
        cases has with
        | item mem inner =>
          have inner := items found _ mem inner
          omega
  · next inside lead =>
    have mark := fair.mark lead
    have skipped := total_skipBlanks cost inside
    split at read
    · cases read
    · split at read
      · cases read
        cases has with
        | key mem => cases mem
        | member mem _ => cases mem
      · obtain ⟨⟨within, after⟩, found, same⟩ := Option.map_eq_some_iff.mp read
        cases same
        dsimp only
        -- a member that was replaced is not in the object
        have inner : total cost s.toList + total cost after < total cost (skipBlanks inside) := by
          cases has with
          | key mem => exact members found _ (Dict.mem_ofList mem) (.inl rfl)
          | member mem inner => exact members found _ (Dict.mem_ofList mem) (.inr inner)
        omega
  · obtain ⟨⟨n, after⟩, found, same⟩ := Option.map_eq_some_iff.mp read
    cases same
    cases has

include fair value items in
theorem text_items {within : List Json} (read : items? (fuel + 1) room cs = some (within, rest)) :
    ∀ j ∈ within, HasText s j → total cost s.toList + total cost rest < total cost cs := by
  intro j mem has
  rw [items?.eq_def] at read
  dsimp only at read
  split at read
  · cases read
  · next first after found =>
    split at read
    · next closed =>
      cases read
      rw [List.mem_singleton] at mem
      subst mem
      have bracket := fair.mark closed
      have inner := value found has
      omega
    · next comma =>
      obtain ⟨⟨more, last⟩, others, same⟩ := Option.map_eq_some_iff.mp read
      cases same
      dsimp only
      have mark := fair.mark comma
      rcases List.mem_cons.mp mem with rfl | mem
      · have inner := value found has
        have left := (fair.read fuel).2.1 others
        omega
      · have inner := items others j mem has
        have left := (fair.read fuel).1 found
        omega
    · cases read

include fair value members in
theorem text_members {within : List (String × Json)}
    (read : members? (fuel + 1) room cs = some (within, rest)) :
    ∀ entry ∈ within, s = entry.1 ∨ HasText s entry.2 →
      total cost s.toList + total cost rest < total cost cs := by
  intro entry mem has
  rw [members?.eq_def] at read
  dsimp only at read
  split at read
  · next quote =>
    have opened := fair.mark quote
    split at read
    · cases read
    · next key named foundKey =>
      have name := fair.text foundKey
      rw [weightBy] at name
      split at read
      · next colon =>
        have mark := fair.mark colon
        split at read
        · cases read
        · next j after found =>
          have weight := (fair.read fuel).1 found
          -- the first member is the one that has the text, or one of the others is
          have first (here : entry = (key, j)) :
              total cost s.toList + total cost after < total cost cs := by
            subst here
            rcases has with rfl | has
            · omega
            · have inner := value found has
              omega
          split at read
          · next closed =>
            cases read
            have brace := fair.mark closed
            have inner := first (List.mem_singleton.mp mem)
            omega
          · next comma =>
            obtain ⟨⟨more, last⟩, others, same⟩ := Option.map_eq_some_iff.mp read
            cases same
            dsimp only
            have separator := fair.mark comma
            have left := (fair.read fuel).2.2 others
            rcases List.mem_cons.mp mem with here | mem
            · have inner := first here
              omega
            · have inner := members others entry mem has
              omega
          · cases read
      · cases read
  · cases read

end Step

/-- Every reader uses up more than any text in what it reads: by induction on the fuel, for the three
    readers at once. -/
theorem text_read (fair : Fair cost) (fuel : Nat) :
    (∀ {room cs j rest}, value? fuel room cs = some (j, rest) → HasText s j →
      total cost s.toList + total cost rest < total cost cs) ∧
    (∀ {room cs read rest}, items? fuel room cs = some (read, rest) →
      ∀ j ∈ read, HasText s j → total cost s.toList + total cost rest < total cost cs) ∧
    (∀ {room cs read rest}, members? fuel room cs = some (read, rest) →
      ∀ entry ∈ read, s = entry.1 ∨ HasText s entry.2 →
        total cost s.toList + total cost rest < total cost cs) := by
  induction fuel with
  | zero =>
    refine ⟨?_, ?_, ?_⟩
    · intro room cs j rest read
      simp [value?] at read
    · intro room cs within rest read
      simp [items?] at read
    · intro room cs within rest read
      simp [members?] at read
  | succ fuel ih =>
    obtain ⟨value, items, members⟩ := ih
    exact ⟨text_value fair items members, text_items fair value items,
      text_members fair value members⟩

/-- A text that stands anywhere in the value of a JSON text has fewer bytes. -/
theorem text_shorter {text : String} {j : Json} (read : ofText? text = some j) (has : HasText s j) :
    s.utf8ByteSize < text.utf8ByteSize := by
  rw [ofText?, ofChars?] at read
  split at read
  · cases read
  · next found =>
    split at read
    · cases read
      have shorter := (text_read fair_utf8Size _).1 found has
      rw [total_utf8Size, total_utf8Size text.toList, String.ofList_toList,
        String.ofList_toList] at shorter
      exact Nat.lt_of_add_right_lt shorter
    · cases read

end VirtualService.Json
