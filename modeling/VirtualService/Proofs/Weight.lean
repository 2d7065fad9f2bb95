/-
  VirtualService/Proofs/Weight.lean
  =================================
  **What is read weighs less than its text.**

  Every reader of JSON uses up at least as much as what it reads weighs: no escape
  costs less than the character it stands for, a text has two quotes for its node, a
  number a digit, and every item and member a mark that separates or ends it.  So a
  value weighs no more than the characters of its text cost, whatever characters cost
  within reason (`Fair.ofText`), and a text within it costs less (`Fair.text_within`).

  Where a character costs its bytes (`ofText_weight`), this shows that an array that a
  text stands for is always searched for objects (`views_text`): the search sees in a
  text what it sees in the value that the text stands for.
-/
import Mathlib.Data.List.Basic
import VirtualService.Proofs.Structure

namespace VirtualService

namespace Json

/-! ### What characters cost -/

/-- What some characters cost together. -/
def total (cost : Char → Nat) : List Char → Nat
  | [] => 0
  | c :: cs => cost c + total cost cs

/-- Every character costs something, none more than the digits of an escape, and all in ASCII the
    same. -/
structure Fair (cost : Char → Nat) : Prop where
  positive : ∀ c, 0 < cost c
  few : ∀ c, cost c ≤ 4
  ascii : ∀ c : Char, c.toNat < 128 → cost c = 1

mutual

/-- What a value weighs: its nodes, and what the characters of its texts cost. -/
def weightBy (cost : Char → Nat) : Json → Nat
  | .str s => total cost s.toList + 1
  | .arr items => weightByItems cost items + 1
  | .obj members => weightByMembers cost members + 1
  | _ => 1

def weightByItems (cost : Char → Nat) : List Json → Nat
  | [] => 0
  | j :: rest => weightBy cost j + weightByItems cost rest + 1

def weightByMembers (cost : Char → Nat) : List (String × Json) → Nat
  | [] => 0
  | (_, j) :: rest => weightBy cost j + weightByMembers cost rest + 1

end

section Cost

variable {cost : Char → Nat}

theorem total_cons (cost : Char → Nat) (c : Char) (cs : List Char) :
    total cost (c :: cs) = cost c + total cost cs := rfl

theorem total_append (cost : Char → Nat) (cs ds : List Char) :
    total cost (cs ++ ds) = total cost cs + total cost ds := by
  induction cs with
  | nil => exact (Nat.zero_add _).symm
  | cons c cs ih => rw [List.cons_append, total_cons, total_cons, ih, Nat.add_assoc]

theorem total_le_cons (cost : Char → Nat) (c : Char) (cs : List Char) :
    total cost cs ≤ total cost (c :: cs) := by
  rw [total_cons]
  exact Nat.le_add_left _ _

theorem Fair.lt_cons (fair : Fair cost) (c : Char) (cs : List Char) :
    total cost cs < total cost (c :: cs) := by
  have positive := fair.positive c
  rw [total_cons]
  omega

theorem total_of_suffix (cost : Char → Nat) {rest cs : List Char} (suffix : rest <:+ cs) :
    total cost rest ≤ total cost cs := by
  obtain ⟨front, rfl⟩ := suffix
  rw [total_append]
  exact Nat.le_add_left _ _

theorem total_skipBlanks (cost : Char → Nat) (cs : List Char) :
    total cost (skipBlanks cs) ≤ total cost cs :=
  total_of_suffix cost (List.dropWhile_suffix _)

theorem Fair.dropWhile_lt (fair : Fair cost) {p : Char → Bool} {cs : List Char}
    (some : cs.takeWhile p ≠ []) : total cost (cs.dropWhile p) < total cost cs := by
  cases cs with
  | nil => exact absurd rfl some
  | cons c cs =>
    cases first : p c with
    | false => simp [first] at some
    | true =>
      rw [List.dropWhile_cons_of_pos first]
      exact Nat.lt_of_le_of_lt (total_of_suffix cost (List.dropWhile_suffix _)) (fair.lt_cons c cs)

/-! ### Numbers -/

theorem exponent_suffix {cs rest : List Char} {down : Bool} {e : Nat}
    (read : exponent? cs = some (down, e, rest)) : rest <:+ cs := by
  have finish : ∀ {negative : Bool} {ds : List Char},
      (if (ds.takeWhile Digits.isDecimal).isEmpty then none
        else some (negative, Digits.value (ds.takeWhile Digits.isDecimal),
          ds.dropWhile Digits.isDecimal)) = some (down, e, rest) → rest <:+ ds := by
    intro negative ds read
    split at read
    · cases read
    · cases read
      exact List.dropWhile_suffix _
  rw [exponent?.eq_def] at read
  split at read
  next negative ds signed =>
    split at signed <;> cases signed
    · exact (finish read).trans (List.suffix_cons _ _)
    · exact (finish read).trans (List.suffix_cons _ _)
    · exact finish read

theorem scaled_suffix {negative : Bool} {g : Gathered} {cs rest : List Char} {n : Number}
    (read : scaled? negative g cs = some (n, rest)) : rest <:+ cs := by
  have finish : ∀ {g : Gathered} {after : List Char},
      (g.magnitude?.map fun x => (signedFloat negative x, after)) = some (n, rest) →
        rest = after := by
    intro g after read
    obtain ⟨x, -, same⟩ := Option.map_eq_some_iff.mp read
    cases same
    rfl
  rw [scaled?.eq_def] at read
  dsimp only at read
  split at read
  · split at read
    · split at read
      · cases read
      · next c after _ _ down e last exponent =>
        have inside : last <:+ c :: after :=
          (exponent_suffix exponent).trans (List.suffix_cons c after)
        split at read
        · cases read
          exact inside
        · exact finish read ▸ inside
    · exact finish read ▸ List.suffix_refl _
  · exact finish read ▸ List.suffix_refl _

theorem integer_rest {negative : Bool} {word : Nat} {rest after : List Char} {n : Number}
    (read : unsigned?.integer negative word rest = some (n, after)) : after = rest := by
  rw [unsigned?.integer] at read
  split at read
  · split at read <;> cases read <;> rfl
  · cases read
    rfl

theorem Fair.unsigned (fair : Fair cost) {negative : Bool} {cs rest : List Char} {n : Number}
    (read : unsigned? negative cs = some (n, rest)) : total cost rest < total cost cs := by
  rw [unsigned?] at read
  dsimp only at read
  split at read
  · cases read
  · next digits =>
    have some : cs.takeWhile Digits.isDecimal ≠ [] := by
      intro none
      simp [none] at digits
    refine Nat.lt_of_le_of_lt (total_of_suffix cost ?_) (fair.dropWhile_lt some)
    split at read
    · next after dot =>
      split at read
      · cases read
      · rw [dot]
        exact (scaled_suffix read).trans ((List.dropWhile_suffix _).trans (List.suffix_cons _ _))
    · split at read
      · exact scaled_suffix read
      · exact integer_rest read ▸ List.suffix_refl _
    · split at read
      · exact integer_rest read ▸ List.suffix_refl _
      · exact scaled_suffix read

theorem Fair.number (fair : Fair cost) {cs rest : List Char} {n : Number}
    (read : number? cs = some (n, rest)) : total cost rest < total cost cs := by
  rw [number?.eq_def] at read
  split at read
  · exact Nat.lt_trans (fair.unsigned read) (fair.lt_cons _ _)
  · exact fair.unsigned read

/-! ### Texts -/

theorem Fair.fourHex (fair : Fair cost) {cs rest : List Char} {n : Nat}
    (read : fourHex? cs = some (n, rest)) : total cost rest + 4 ≤ total cost cs := by
  rw [fourHex?.eq_def] at read
  split at read
  · next a b c d after =>
    split at read
    · cases read
      have first := fair.lt_cons a (b :: c :: d :: rest)
      have second := fair.lt_cons b (c :: d :: rest)
      have third := fair.lt_cons c (d :: rest)
      have fourth := fair.lt_cons d rest
      omega
    · cases read
  · cases read

theorem Fair.codeEscape (fair : Fair cost) {cs rest : List Char} {e : Char}
    (read : codeEscape? cs = some (e, rest)) : total cost rest + 4 ≤ total cost cs := by
  rw [codeEscape?] at read
  split at read
  · cases read
  · next unit after found =>
    have first := fair.fourHex found
    split at read
    · split at read
      · next more =>
        split at read
        · next second =>
          split at read
          · obtain rfl := (Prod.mk.inj (Option.some.inj read)).2
            have low := fair.fourHex second
            exact Nat.le_trans (Nat.le_trans low (total_le_cons cost 'u' more))
              (Nat.le_trans (total_le_cons cost '\\' ('u' :: more)) (Nat.le_of_add_right_le first))
          · cases read
        · cases read
      · cases read
    · split at read
      · cases read
      · cases read
        exact first

/-- An escape costs at least as much as its character, the backslash counted. -/
theorem Fair.escape (fair : Fair cost) {cs rest : List Char} {e : Char}
    (read : escape? cs = some (e, rest)) : cost e + total cost rest ≤ 1 + total cost cs := by
  rw [escape?.eq_def] at read
  split at read
  case h_9 after =>
    have inside := fair.codeEscape read
    have letter := fair.lt_cons 'u' after
    have four := fair.few e
    omega
  case h_10 => cases read
  all_goals
    cases read
    rw [fair.ascii _ (by decide)]
    exact Nat.add_le_add_left (total_le_cons cost _ _) _

/-- The characters of a text and its closing quote cost no more than they are written with. -/
theorem Fair.chars (fair : Fair cost) {fuel : Nat} {cs text rest : List Char}
    (read : chars? fuel cs = some (text, rest)) :
    total cost text + total cost rest + 1 ≤ total cost cs := by
  induction fuel generalizing cs text with
  | zero => simp [chars?] at read
  | succ fuel ih =>
    cases cs with
    | nil => simp [chars?] at read
    | cons c cs =>
      rw [chars?] at read
      have lead := total_cons cost c cs
      have positive := fair.positive c
      split at read
      · cases read
        have empty : total cost [] = 0 := rfl
        omega
      · split at read
        · split at read
          · cases read
          · next e after escaped =>
            obtain ⟨⟨more, last⟩, found, same⟩ := Option.map_eq_some_iff.mp read
            cases same
            have inner := ih found
            have escape := fair.escape escaped
            have written := total_cons cost e more
            omega
        · split at read
          · cases read
          · obtain ⟨⟨more, last⟩, found, same⟩ := Option.map_eq_some_iff.mp read
            cases same
            have inner := ih found
            have written := total_cons cost c more
            omega

theorem Fair.text (fair : Fair cost) {cs rest : List Char} {s : String}
    (read : text? cs = some (s, rest)) : weightBy cost (.str s) + total cost rest ≤ total cost cs := by
  rw [text?] at read
  obtain ⟨⟨text, last⟩, found, same⟩ := Option.map_eq_some_iff.mp read
  cases same
  have inner := fair.chars found
  rw [weightBy, String.toList_ofList]
  omega

/-! ### Values -/

theorem weightByMembers_insert (cost : Char → Nat) (members : Dict Json) (key : String) (j : Json) :
    weightByMembers cost (Dict.insert members key j) ≤ weightByMembers cost members + weightBy cost j + 1 := by
  induction members with
  | nil => simp [Dict.insert, weightByMembers]
  | cons entry rest ih =>
    obtain ⟨k, other⟩ := entry
    rw [Dict.insert]
    split
    · simp only [weightByMembers]
      omega
    · split
      · simp only [weightByMembers]
        omega
      · simp only [weightByMembers]
        omega

theorem weightBy_item_lt (cost : Char → Nat) {item : Json} {items : List Json}
    (mem : item ∈ items) : weightBy cost item < weightBy cost (.arr items) := by
  show _ < weightByItems cost items + 1
  induction items with
  | nil => cases mem
  | cons first items ih =>
    rw [weightByItems]
    rcases List.mem_cons.mp mem with rfl | mem
    · omega
    · have later := ih mem
      omega

theorem weightBy_member_lt (cost : Char → Nat) {member : String × Json} {members : Dict Json}
    (mem : member ∈ members) : weightBy cost member.2 < weightBy cost (.obj members) := by
  show _ < weightByMembers cost members + 1
  induction members with
  | nil => cases mem
  | cons first members ih =>
    obtain ⟨key, j⟩ := first
    rw [weightByMembers]
    rcases List.mem_cons.mp mem with rfl | mem
    · dsimp only
      omega
    · have later := ih mem
      omega

theorem weightBy_scalar_le (cost : Char → Nat) {j part : Json} (mem : part ∈ j.scalars) :
    weightBy cost part ≤ weightBy cost j := by
  induction j using Json.induction with
  | scalar j isScalar =>
    rw [scalars_scalar isScalar, List.mem_singleton] at mem
    exact mem ▸ Nat.le_refl _
  | arr items ih =>
    obtain ⟨item, memItem, within⟩ := mem_scalars_arr.mp mem
    exact Nat.le_trans (ih item memItem within) (Nat.le_of_lt (weightBy_item_lt cost memItem))
  | obj members ih =>
    obtain ⟨member, memMember, within⟩ := mem_scalars_obj.mp mem
    exact Nat.le_trans (ih member memMember within)
      (Nat.le_of_lt (weightBy_member_lt cost memMember))

/-- A member that is replaced weighs nothing any more. -/
theorem weightByMembers_ofList (cost : Char → Nat) (pairs : List (String × Json)) :
    weightByMembers cost (Dict.ofList pairs) ≤ weightByMembers cost pairs := by
  suffices grown : ∀ members : Dict Json, weightByMembers cost (pairs.foldl
      (fun members entry => Dict.insert members entry.1 entry.2) members) ≤
        weightByMembers cost members + weightByMembers cost pairs from
    Nat.le_trans (grown []) (by simp [weightByMembers])
  induction pairs with
  | nil => exact fun members => Nat.le_refl _
  | cons entry rest ih =>
    intro members
    have inner := ih (Dict.insert members entry.1 entry.2)
    have step := weightByMembers_insert cost members entry.1 entry.2
    simp only [List.foldl_cons, weightByMembers]
    omega

/-- A character after blanks takes up something of what is left. -/
theorem Fair.mark (fair : Fair cost) {c : Char} {cs rest : List Char}
    (lead : skipBlanks cs = c :: rest) : total cost rest + 1 ≤ total cost cs := by
  have skipped := total_skipBlanks cost cs
  have mark := fair.lt_cons c rest
  rw [lead] at skipped
  omega

theorem Fair.word (fair : Fair cost) {c : Char} (word : List Char) {cs rest : List Char}
    (lead : skipBlanks cs = c :: (word ++ rest)) : 1 + total cost rest ≤ total cost cs := by
  have mark := fair.mark lead
  have inside := total_of_suffix cost (List.suffix_append word rest)
  omega

section Step

-- what is read with the fuel that is left after one step
variable {fuel : Nat} {room : Nat} {cs rest : List Char} (fair : Fair cost)
  (value : ∀ {room cs j rest}, value? fuel room cs = some (j, rest) →
    weightBy cost j + total cost rest ≤ total cost cs)
  (items : ∀ {room cs read rest}, items? fuel room cs = some (read, rest) →
    weightByItems cost read + total cost rest ≤ total cost cs)
  (members : ∀ {room cs read rest}, members? fuel room cs = some (read, rest) →
    weightByMembers cost read + total cost rest ≤ total cost cs)

include fair items members in
theorem weight_value {j : Json} (read : value? (fuel + 1) room cs = some (j, rest)) :
    weightBy cost j + total cost rest ≤ total cost cs := by
  rw [value?.eq_def] at read
  dsimp only at read
  split at read
  · next lead =>
    cases read
    exact fair.word ['u', 'l', 'l'] lead
  · next lead =>
    cases read
    exact fair.word ['r', 'u', 'e'] lead
  · next lead =>
    cases read
    exact fair.word ['a', 'l', 's', 'e'] lead
  · next lead =>
    obtain ⟨⟨s, after⟩, found, same⟩ := Option.map_eq_some_iff.mp read
    cases same
    have mark := fair.mark lead
    have text := fair.text found
    dsimp only
    omega
  · next inside lead =>
    have mark := fair.mark lead
    have skipped := total_skipBlanks cost inside
    split at read
    · cases read
    · split at read
      · next closed =>
        cases read
        have bracket := fair.mark closed
        simp only [weightBy, weightByItems]
        omega
      · obtain ⟨⟨within, after⟩, found, same⟩ := Option.map_eq_some_iff.mp read
        cases same
        have inner := items found
        simp only [weightBy]
        omega
  · next inside lead =>
    have mark := fair.mark lead
    have skipped := total_skipBlanks cost inside
    split at read
    · cases read
    · split at read
      · next closed =>
        cases read
        have brace := fair.mark closed
        simp only [weightBy, weightByMembers]
        omega
      · obtain ⟨⟨within, after⟩, found, same⟩ := Option.map_eq_some_iff.mp read
        cases same
        have inner := members found
        have kept := weightByMembers_ofList cost within
        simp only [weightBy]
        omega
  · obtain ⟨⟨n, after⟩, found, same⟩ := Option.map_eq_some_iff.mp read
    cases same
    have digits := fair.number found
    have skipped := total_skipBlanks cost cs
    simp only [weightBy]
    omega

include fair value items in
theorem weight_items {within : List Json} (read : items? (fuel + 1) room cs = some (within, rest)) :
    weightByItems cost within + total cost rest ≤ total cost cs := by
  rw [items?.eq_def] at read
  dsimp only at read
  split at read
  · cases read
  · next item after found =>
    have first := value found
    split at read
    · next closed =>
      cases read
      have bracket := fair.mark closed
      simp only [weightByItems]
      omega
    · next comma =>
      obtain ⟨⟨more, last⟩, found, same⟩ := Option.map_eq_some_iff.mp read
      cases same
      have mark := fair.mark comma
      have others := items found
      simp only [weightByItems]
      omega
    · cases read

include fair value members in
theorem weight_members {within : List (String × Json)}
    (read : members? (fuel + 1) room cs = some (within, rest)) :
    weightByMembers cost within + total cost rest ≤ total cost cs := by
  rw [members?.eq_def] at read
  dsimp only at read
  split at read
  · next quote =>
    have opened := fair.mark quote
    split at read
    · cases read
    · next key named found =>
      have name := fair.text found
      split at read
      · next colon =>
        have mark := fair.mark colon
        split at read
        · cases read
        · next j after found =>
          have first := value found
          split at read
          · next closed =>
            cases read
            have brace := fair.mark closed
            simp only [weightByMembers]
            omega
          · next comma =>
            obtain ⟨⟨more, last⟩, found, same⟩ := Option.map_eq_some_iff.mp read
            cases same
            have separator := fair.mark comma
            have others := members found
            simp only [weightByMembers]
            omega
          · cases read
      · cases read
  · cases read

end Step

/-- Every reader uses up at least as much as what it reads weighs: by induction on the fuel, for the
    three readers at once. -/
theorem Fair.read (fair : Fair cost) (fuel : Nat) :
    (∀ {room cs j rest}, value? fuel room cs = some (j, rest) →
      weightBy cost j + total cost rest ≤ total cost cs) ∧
    (∀ {room cs read rest}, items? fuel room cs = some (read, rest) →
      weightByItems cost read + total cost rest ≤ total cost cs) ∧
    (∀ {room cs read rest}, members? fuel room cs = some (read, rest) →
      weightByMembers cost read + total cost rest ≤ total cost cs) := by
  induction fuel with
  | zero =>
    refine ⟨?_, ?_, ?_⟩
    · intro room cs j rest read
      simp [value?] at read
    · intro room cs within rest read
      simp [items?] at read
    · intro room cs within rest read
      simp [members?] at read
  | succ fuel ih =>
    obtain ⟨value, items, members⟩ := ih
    exact ⟨weight_value fair items members, weight_items fair value items,
      weight_members fair value members⟩

/-- A JSON value weighs no more than the characters of its text cost. -/
theorem Fair.ofText (fair : Fair cost) {text : String} {j : Json} (read : ofText? text = some j) :
    weightBy cost j ≤ total cost text.toList := by
  rw [ofText?, ofChars?] at read
  split at read
  · cases read
  · next found =>
    split at read
    · cases read
      exact Nat.le_of_add_right_le ((fair.read _).1 found)
    · cases read

/-- A text that stands within a JSON text costs less than that text. -/
theorem Fair.text_within (fair : Fair cost) {text s : String} {document : Json}
    (read : ofText? text = some document) (mem : Json.str s ∈ document.scalars) :
    total cost s.toList < total cost text.toList := by
  have whole := fair.ofText read
  have inside := weightBy_scalar_le cost mem
  rw [weightBy] at inside
  omega

end Cost

/-! ### Bytes -/

theorem fair_utf8Size : Fair Char.utf8Size where
  positive := Char.utf8Size_pos
  few := Char.utf8Size_le_four
  ascii c small := by
    rw [Char.utf8Size_eq_one_iff]
    exact Nat.le_of_lt_succ small

theorem total_utf8Size (cs : List Char) :
    total Char.utf8Size cs = (String.ofList cs).utf8ByteSize := by
  induction cs with
  | nil => rfl
  | cons c cs ih =>
    rw [total_cons, ih, String.ofList_cons, String.utf8ByteSize_append,
      String.utf8ByteSize_singleton]

mutual

theorem weight_eq : ∀ j : Json, j.weight = weightBy Char.utf8Size j
  | .str s => by rw [weight, weightBy, total_utf8Size, String.ofList_toList]
  | .arr items => by rw [weight, weightBy, weightItems_eq items]
  | .obj members => by rw [weight, weightBy, weightMembers_eq members]
  | .null => rfl
  | .bool _ => rfl
  | .num _ => rfl

theorem weightItems_eq : ∀ items : List Json, weightItems items = weightByItems Char.utf8Size items
  | [] => rfl
  | j :: rest => by rw [weightItems, weightByItems, weight_eq j, weightItems_eq rest]

theorem weightMembers_eq : ∀ members : List (String × Json),
    weightMembers members = weightByMembers Char.utf8Size members
  | [] => rfl
  | (_, j) :: rest => by rw [weightMembers, weightByMembers, weight_eq j, weightMembers_eq rest]

end

/-- A JSON value weighs no more than its text has bytes. -/
theorem ofText_weight {text : String} {j : Json} (read : ofText? text = some j) :
    j.weight ≤ text.utf8ByteSize := by
  have bound := fair_utf8Size.ofText read
  rwa [← weight_eq, total_utf8Size, String.ofList_toList] at bound

theorem weight_lt_of_mem {item : Json} {items : List Json} (mem : item ∈ items) :
    item.weight < (Json.arr items).weight := by
  rw [weight_eq, weight_eq]
  exact weightBy_item_lt _ mem

end Json

/-! ### Texts that are read -/

/-- What is read from XML is an object. -/
theorem Xml.toJson_obj {text : String} {j : Json} (read : Xml.toJson? text = some j) :
    ∃ members, j = .obj members := by
  rw [toJson?] at read
  split at read
  · obtain ⟨document, -, found⟩ := Option.bind_eq_some_iff.mp read
    rw [Document.toJson?] at found
    split at found
    · cases found
      exact ⟨_, rfl⟩
    · cases found
  · cases read

/-- A text stands for an object, or for what it holds as JSON, which is no text. -/
theorem interpret_cases {text : String} {j : Json} (read : interpret text = some j) :
    (∃ members, j = .obj members) ∨ Json.ofText? text = some j ∧ ∀ s, j ≠ .str s := by
  rw [interpret] at read
  split at read
  · cases read
  · next bare found =>
    cases read
    exact .inr ⟨found, fun s same => bare s same⟩
  · exact .inl (Xml.toJson_obj read)

theorem interpret_ne_str (text s : String) : interpret text ≠ some (.str s) := by
  intro read
  rcases interpret_cases read with ⟨members, isObject⟩ | ⟨-, bare⟩
  · cases isObject
  · exact bare s rfl

namespace Json

/-- The value that a text stands for is searched as a lighter one, unless it is an object. -/
theorem reading_lighter {text : String} {items : List Json}
    (read : interpret text = some (.arr items)) :
    (Json.arr items).weight < (Json.str text).weight := by
  rcases interpret_cases read with ⟨members, isObject⟩ | ⟨json, -⟩
  · cases isObject
  · have bound := ofText_weight json
    simp only [weight] at bound ⊢
    omega

/-- A text is searched as the value that it stands for. -/
theorem views_text {text : String} {j : Json} (read : interpret text = some j) :
    (Json.str text).views = j.views := by
  cases j with
  | obj members => rw [views_obj, views, read]
  | arr items =>
    rw [views, read]
    exact dif_pos (reading_lighter read)
  | str s => exact absurd read (interpret_ne_str text s)
  | _ => simp only [views, read]

/-- There is nothing to search in a value. -/
def Closed : Json → Prop
  | .obj _ => False
  | .arr items => items = []
  | .str text => interpret text = none
  | _ => True

theorem Closed.views {j : Json} (closed : j.Closed) : j.views = [none] := by
  cases j with
  | obj members => exact closed.elim
  | arr items => rw [show items = [] from closed, Json.views]
  | str text =>
    rw [Json.views.eq_def]
    dsimp only
    rw [show interpret text = none from closed]
  | _ => rw [Json.views]

/-- What is shown of all values by the way in which they are searched. -/
theorem searching {motive : Json → Prop}
    (obj : ∀ members : Dict Json, motive (.obj members))
    (arr : ∀ items : List Json, items ≠ [] → (∀ item ∈ items, motive item) → motive (.arr items))
    (read : ∀ (text : String) (j : Json), interpret text = some j → motive j → motive (.str text))
    (closed : ∀ j : Json, j.Closed → motive j) : ∀ j, motive j
  | .obj members => obj members
  | .arr [] => closed _ rfl
  | .arr (item :: items) =>
      arr _ (List.cons_ne_nil _ _) fun inner _ => searching obj arr read closed inner
  | .str text =>
      match reading : interpret text with
      | none => closed _ reading
      | some (.obj members) => read text _ reading (obj members)
      | some (.arr items) => read text _ reading (searching obj arr read closed (.arr items))
      | some (.str s) => absurd reading (interpret_ne_str text s)
      | some .null => read text _ reading (closed _ trivial)
      | some (.bool _) => read text _ reading (closed _ trivial)
      | some (.num _) => read text _ reading (closed _ trivial)
  | .null => closed _ trivial
  | .bool _ => closed _ trivial
  | .num _ => closed _ trivial
termination_by j => j.weight
decreasing_by
  · exact weight_lt_of_mem ‹_›
  · exact reading_lighter reading

end Json

end VirtualService
