/-
  VirtualService/Proofs/Markup.lean
  =================================
  **An object weighs less than the markup it is read from.**

  What an element adds to the object of the element around it is paid for by its own
  markup: its tags pay for its object, for the member or the array that holds it, and
  for the member that holds its text, and each attribute pays for its own member.
  Text pays for itself, since no reference is shorter than the character it stands
  for.  So every reader uses up at least what it reads (`paid_read`, by induction on
  the fuel), and the whole text weighs more than the object for it
  (`toJson_weight`), as it does when it is JSON.
-/
import Mathlib.Algebra.Order.BigOperators.Group.List
import Mathlib.Algebra.Order.Group.Nat
import VirtualService.Proofs.Weight
import VirtualService.Proofs.Elements

namespace VirtualService.Xml

open Json (total total_cons total_append total_le_cons total_of_suffix Fair weightBy
  weightByItems weightByMembers)

variable {cost : Char → Nat} {cs rest : List Char}

/-! ### Pieces of text -/

theorem after_eq {mark : List Char} (read : after? mark cs = some rest) : cs = mark ++ rest := by
  induction mark generalizing cs with
  | nil => exact Option.some.inj read
  | cons p ps ih =>
    cases cs with
    | nil => cases read
    | cons c cs =>
      rw [after?] at read
      split at read
      · next same => rw [same, List.cons_append, ← ih read]
      · cases read

theorem upTo_eq {mark before : List Char} (read : upTo? mark cs = some (before, rest)) :
    cs = before ++ rest := by
  induction cs generalizing before with
  | nil =>
    rw [upTo?] at read
    split at read
    · cases read
      rfl
    · cases read
  | cons c cs ih =>
    rw [upTo?] at read
    split at read
    · cases read
      rfl
    · obtain ⟨⟨more, last⟩, found, same⟩ := Option.map_eq_some_iff.mp read
      cases same
      rw [List.cons_append, ← ih found]

theorem characters_eq (cs : List Char) : cs = (characters cs).1 ++ (characters cs).2 := by
  induction cs with
  | nil => rfl
  | cons c cs ih =>
    rw [characters]
    split
    · rfl
    · exact congrArg (c :: ·) ih

theorem total_skipSpace (cost : Char → Nat) (cs : List Char) :
    total cost (skipSpace cs) ≤ total cost cs :=
  total_of_suffix cost (List.dropWhile_suffix _)

/-- A character after blanks takes up something of what is left. -/
theorem mark_paid (fair : Fair cost) {c : Char} (lead : skipSpace cs = c :: rest) :
    total cost rest + 1 ≤ total cost cs := by
  have skipped := total_skipSpace cost cs
  have mark := fair.lt_cons c rest
  rw [lead] at skipped
  omega

theorem space_paid (fair : Fair cost) (read : space? cs = some rest) :
    total cost rest + 1 ≤ total cost cs := by
  cases cs with
  | nil => cases read
  | cons c cs =>
    rw [space?] at read
    split at read
    · cases read
      have blank := fair.lt_cons c cs
      have skipped := total_skipSpace cost cs
      omega
    · cases read

theorem plainName_paid (fair : Fair cost) {name : String}
    (read : plainName? cs = some (name, rest)) : total cost rest + 1 ≤ total cost cs := by
  cases cs with
  | nil => cases read
  | cons c cs =>
    rw [plainName?] at read
    split at read
    · cases read
      have first := fair.lt_cons c cs
      have others := total_of_suffix cost (List.dropWhile_suffix isNameChar (l := cs))
      omega
    · cases read

theorem name_paid (fair : Fair cost) {written : WrittenName}
    (read : name? cs = some (written, rest)) : total cost rest + 1 ≤ total cost cs := by
  rw [name?] at read
  split at read
  · cases read
  · next first behind firstRead =>
    have firstPaid := plainName_paid fair firstRead
    split at read
    · next more =>
      split at read
      · next second after secondRead =>
        cases read
        have secondPaid := plainName_paid fair secondRead
        have colon := total_le_cons cost ':' more
        omega
      · cases read
        exact firstPaid
    · cases read
      exact firstPaid

theorem looseName_eq {name : String} (read : looseName? cs = some (name, rest)) :
    cs = name.toList ++ rest := by
  cases cs with
  | nil => cases read
  | cons c cs =>
    rw [looseName?] at read
    split at read
    · cases read
      rw [String.toList_ofList, List.cons_append, List.takeWhile_append_dropWhile]
    · cases read

/-! ### References -/

theorem closed_eq {c : Option Char} {behind : List Char} {r : Char}
    (read : closed? c behind = some (r, rest)) : c = some r ∧ behind = ';' :: rest := by
  unfold closed? at read
  split at read
  · cases read
    exact ⟨rfl, rfl⟩
  · cases read

/-- Every name that needs no declaration has at least two letters. -/
theorem named_paid (fair : Fair cost) {name : String} {r : Char} (known : named? name = some r) :
    2 ≤ total cost name.toList := by
  have two (a b : Char) (letters : List Char) : 2 ≤ total cost (a :: b :: letters) := by
    have first := fair.lt_cons a (b :: letters)
    have second := fair.lt_cons b letters
    omega
  unfold named? at known
  split at known
  case h_6 => cases known
  all_goals exact two _ _ _

/-- A reference is at least as long as three characters, its ampersand apart. -/
theorem reference_paid (fair : Fair cost) {r : Char} (read : reference? cs = some (r, rest)) :
    total cost rest + 3 ≤ total cost cs := by
  unfold reference? at read
  split at read
  · next digits =>
    obtain ⟨-, behind⟩ := closed_eq read
    have number := total_of_suffix cost
      (List.dropWhile_suffix (fun c => (Digits.hex? c).isSome) (l := digits))
    rw [behind] at number
    have semicolon := fair.lt_cons ';' rest
    have letter := fair.lt_cons 'x' digits
    have hash := fair.lt_cons '#' ('x' :: digits)
    omega
  · next digits _ =>
    obtain ⟨made, behind⟩ := closed_eq read
    have some : digits.takeWhile Digits.isDecimal ≠ [] := by
      intro none
      rw [none] at made
      cases made
    have number := fair.dropWhile_lt some
    rw [behind] at number
    have semicolon := fair.lt_cons ';' rest
    have hash := fair.lt_cons '#' digits
    omega
  · split at read
    · next name behind nameRead =>
      obtain ⟨known, rfl⟩ := closed_eq read
      have letters := named_paid fair known
      have semicolon := fair.lt_cons ';' rest
      rw [looseName_eq nameRead, total_append]
      omega
    · cases read

/-! ### Attributes -/

theorem value_paid (fair : Fair cost) {quote : Char} {fuel : Nat} {text : List Char}
    (read : value? quote fuel cs = some (text, rest)) :
    total cost text + total cost rest + 1 ≤ total cost cs := by
  induction fuel generalizing cs text with
  | zero => simp [value?] at read
  | succ fuel ih =>
    cases cs with
    | nil => simp [value?] at read
    | cons c cs =>
      rw [value?] at read
      have lead := total_cons cost c cs
      have positive := fair.positive c
      split at read
      · cases read
        have empty : total cost [] = 0 := rfl
        omega
      · split at read
        · cases read
        · split at read
          · split at read
            · next r behind reference =>
              obtain ⟨⟨more, last⟩, found, same⟩ := Option.map_eq_some_iff.mp read
              cases same
              have inner := ih found
              have length := reference_paid fair reference
              have few := fair.few r
              have written := total_cons cost r more
              omega
            · cases read
          · obtain ⟨⟨more, last⟩, found, same⟩ := Option.map_eq_some_iff.mp read
            cases same
            have inner := ih found
            have written := total_cons cost c more
            omega

theorem quoted_paid (fair : Fair cost) {value : String} (read : quoted? cs = some (value, rest)) :
    total cost value.toList + total cost rest + 2 ≤ total cost cs := by
  cases cs with
  | nil => cases read
  | cons c cs =>
    rw [quoted?] at read
    split at read
    · obtain ⟨⟨text, last⟩, found, same⟩ := Option.map_eq_some_iff.mp read
      cases same
      have inner := value_paid fair found
      have quote := fair.lt_cons c cs
      rw [String.toList_ofList]
      omega
    · cases read

theorem equals_paid (fair : Fair cost) (read : equals? cs = some rest) :
    total cost rest + 1 ≤ total cost cs := by
  unfold equals? at read
  split at read
  · next behind lead =>
    cases read
    have mark := mark_paid fair lead
    have skipped := total_skipSpace cost behind
    omega
  · cases read

/-- What values weigh as members of an object. -/
def valuesWeight (cost : Char → Nat) (values : List String) : Nat :=
  (values.map fun value => total cost value.toList + 2).sum

theorem valuesWeight_cons (value : String) (values : List String) :
    valuesWeight cost (value :: values) =
      total cost value.toList + 2 + valuesWeight cost values := rfl

/-- The length of what ends a tag. -/
def TagEnd.length : TagEnd → Nat
  | .open => 1
  | .empty => 2

/-- Attributes pay for their values, and the end of the tag for itself. -/
theorem attributes_paid (fair : Fair cost) {fuel : Nat} {written : List (WrittenName × String)}
    {ending : TagEnd} (read : attributes? fuel cs = some (written, ending, rest)) :
    valuesWeight cost (written.map Prod.snd) + total cost rest + ending.length ≤
      total cost cs := by
  induction fuel generalizing cs written with
  | zero => simp [attributes?] at read
  | succ fuel ih =>
    rw [attributes?] at read
    split at read
    · next lead =>
      cases read
      have mark := mark_paid fair lead
      simp only [valuesWeight, List.map_nil, List.sum_nil, TagEnd.length]
      omega
    · next behind lead =>
      cases read
      have mark := mark_paid fair lead
      have second := fair.lt_cons '>' rest
      simp only [valuesWeight, List.map_nil, List.sum_nil, TagEnd.length]
      omega
    · split at read
      · cases read
      · next spaced space =>
        split at read
        · cases read
        · next name behind nameRead =>
          split at read
          · cases read
          · next value after valueRead =>
            obtain ⟨⟨more, last, end'⟩, found, same⟩ := Option.map_eq_some_iff.mp read
            cases same
            obtain ⟨quoted, equals, valueRead⟩ := Option.bind_eq_some_iff.mp valueRead
            have inner := ih found
            have spacePaid := space_paid fair space
            have namePaid := name_paid fair nameRead
            have equalsPaid := equals_paid fair equals
            have valuePaid := quoted_paid fair valueRead
            rw [List.map_cons, valuesWeight_cons]
            dsimp only
            omega

theorem valuesWeight_append (first second : List String) :
    valuesWeight cost (first ++ second) = valuesWeight cost first + valuesWeight cost second := by
  rw [valuesWeight, List.map_append, List.sum_append]
  rfl

theorem valuesWeight_of_sublist (cost : Char → Nat) {kept all : List String} (sublist : kept.Sublist all) :
    valuesWeight cost kept ≤ valuesWeight cost all := by
  induction sublist with
  | slnil => exact Nat.le_refl _
  | cons value _ ih =>
    rw [valuesWeight_cons]
    omega
  | cons_cons value _ ih =>
    rw [valuesWeight_cons, valuesWeight_cons]
    omega

theorem added_kept (cost : Char → Nat) {spaces : Spaces} {plain : List (WrittenName × String)}
    {before attributes : List Attribute}
    (added : plain.foldlM (fun attributes entry => (spaces.attributeName? entry.1).map fun name =>
      addAttribute attributes ⟨name, entry.2⟩) before = some attributes) :
    valuesWeight cost (attributes.map Attribute.value) ≤
      valuesWeight cost (before.map Attribute.value) + valuesWeight cost (plain.map Prod.snd) := by
  induction plain generalizing before with
  | nil =>
    cases added
    exact Nat.le_add_right _ _
  | cons entry plain ih =>
    rw [List.foldlM_cons] at added
    obtain ⟨more, first, added⟩ := Option.bind_eq_some_iff.mp added
    obtain ⟨name, -, rfl⟩ := Option.map_eq_some_iff.mp first
    have later := ih added
    have others : valuesWeight cost ((addAttribute before ⟨name, entry.2⟩).map Attribute.value) ≤
        valuesWeight cost (before.map Attribute.value) + (total cost entry.2.toList + 2) := by
      rw [addAttribute, List.map_append, valuesWeight_append]
      exact Nat.add_le_add_right
        (valuesWeight_of_sublist cost (List.filter_sublist.map Attribute.value)) _
    rw [List.map_cons, valuesWeight_cons]
    omega

/-- Of the attributes that are written, declarations are left out and some may replace others. -/
theorem attributes_kept (cost : Char → Nat) {spaces : Spaces}
    {written : List (WrittenName × String)} {attributes : List Attribute}
    (known : spaces.attributes? written = some attributes) :
    valuesWeight cost (attributes.map Attribute.value) ≤
      valuesWeight cost (written.map Prod.snd) := by
  unfold Spaces.attributes? at known
  dsimp only at known
  split at known
  · cases known
  · have added := added_kept cost known
    have nothing : valuesWeight cost (([] : List Attribute).map Attribute.value) = 0 := rfl
    rw [nothing, Nat.zero_add] at added
    exact Nat.le_trans added (valuesWeight_of_sublist cost (List.filter_sublist.map Prod.snd))

/-! ### The object of an element -/

theorem weightByMembers_eq (members : List (String × Json)) :
    weightByMembers cost members = (members.map fun entry => weightBy cost entry.2 + 1).sum := by
  induction members with
  | nil => rfl
  | cons entry members ih =>
    obtain ⟨key, j⟩ := entry
    rw [weightByMembers, ih, List.map_cons, List.sum_cons]
    dsimp only
    omega

theorem weightByItems_append (items : List Json) (j : Json) :
    weightByItems cost (items ++ [j]) = weightByItems cost items + weightBy cost j + 1 := by
  induction items with
  | nil => simp [weightByItems]
  | cons item items ih =>
    rw [List.cons_append, weightByItems, weightByItems, ih]
    omega

/-- A value that comes to others of its name weighs itself, a member or an item, and at most the
    array that it starts. -/
theorem weightByMembers_gather (cost : Char → Nat) {members : Dict Json}
    (sorted : Dict.Sorted members) (key : String) (j : Json) :
    weightByMembers cost (Json.gather members key j) ≤
      weightByMembers cost members + (weightBy cost j + 3) := by
  have inserted (v : Json) := Dict.sum_insert sorted key v fun j => weightBy cost j + 1
  simp only [← weightByMembers_eq] at inserted
  unfold Json.gather
  split
  · have sum := inserted j
    omega
  · next items found =>
    have sum := inserted (.arr (items ++ [j]))
    rw [found, Option.map_some, Option.getD_some, weightBy, weightBy, weightByItems_append] at sum
    omega
  · next first array found =>
    have sum := inserted (.arr [first, j])
    rw [found, Option.map_some, Option.getD_some, weightBy, weightByItems, weightByItems,
      weightByItems] at sum
    omega

theorem weightByMembers_gatherAll (cost : Char → Nat) {members : Dict Json} (sorted : Dict.Sorted members)
    (pairs : List (String × Json)) :
    weightByMembers cost (Json.gatherAll members pairs) ≤
      weightByMembers cost members + (pairs.map fun entry => weightBy cost entry.2 + 3).sum := by
  induction pairs generalizing members with
  | nil => exact Nat.le_refl _
  | cons entry pairs ih =>
    have step := weightByMembers_gather cost sorted entry.1 entry.2
    have later := ih (Json.gather_sorted sorted entry.1 entry.2)
    rw [Json.gatherAll] at later ⊢
    rw [List.foldl_cons, List.map_cons, List.sum_cons]
    omega

theorem weightByMembers_attributes (cost : Char → Nat) (attributes : List Attribute) :
    weightByMembers cost (attributeMembers attributes) ≤
      valuesWeight cost (attributes.map Attribute.value) := by
  refine Nat.le_trans (Json.weightByMembers_ofList cost _) (Nat.le_of_eq ?_)
  rw [weightByMembers_eq, valuesWeight, List.map_map, List.map_map]
  rfl

theorem total_trim (cost : Char → Nat) (cs : List Char) :
    total cost (Blank.trim cs) ≤ total cost cs := by
  rw [Blank.trim, Blank.trimEnd]
  have front := total_of_suffix cost (List.dropWhile_suffix Blank.isBlank (l := cs))
  obtain ⟨back, split⟩ :=
    List.reverse_prefix.mpr (List.dropWhile_suffix Blank.isBlank (l := (Blank.trimStart cs).reverse))
  rw [List.reverse_reverse] at split
  have whole := congrArg (total cost) split
  rw [total_append] at whole
  rw [Blank.trimStart] at whole ⊢
  omega

theorem weightBy_valueOf (cost : Char → Nat) (members : Dict Json) (text : String) :
    weightBy cost (valueOf members text) ≤
      weightByMembers cost members + total cost text.toList + 3 := by
  unfold valueOf
  dsimp only
  split
  · rw [weightBy]
    omega
  · split
    · rw [weightBy]
      omega
    · have inserted := Json.weightByMembers_insert cost members "#text"
        (.str (String.ofList (Blank.trim text.toList)))
      have trimmed := total_trim cost text.toList
      rw [weightBy, String.toList_ofList] at inserted
      rw [weightBy]
      omega

/-- Without text an element has no member for it. -/
theorem weightBy_valueOf_empty (cost : Char → Nat) (members : Dict Json) :
    weightBy cost (valueOf members "") ≤ weightByMembers cost members + 1 := by
  unfold valueOf
  split
  · show 0 + 1 ≤ _
    omega
  · exact Nat.le_refl _

/-- What a node adds to the value of the element in which it stands. -/
def load (cost : Char → Nat) : Node → Nat
  | .element name spaces attributes children =>
      weightBy cost (Node.toJson (.element name spaces attributes children)) + 3
  | .text content => total cost content.toList
  | .comment _ => 0
  | .instruction _ _ => 0

def loads (cost : Char → Nat) (nodes : List Node) : Nat := (nodes.map (load cost)).sum

theorem loads_cons (node : Node) (nodes : List Node) :
    loads cost (node :: nodes) = load cost node + loads cost nodes := rfl

/-- Children are elements or text, and nothing is counted twice. -/
theorem loads_eq (children : List Node) :
    ((childPairs children).map fun entry => weightBy cost entry.2 + 3).sum +
      total cost (joinedText children).toList = loads cost children := by
  induction children with
  | nil => rw [childPairs]; rfl
  | cons node rest ih =>
    rw [loads_cons]
    cases node with
    | element name spaces attributes below =>
      simp only [childPairs, joinedText, List.map_cons, List.sum_cons, load]
      omega
    | text content =>
      simp only [childPairs, joinedText, String.toList_append, total_append, load]
      omega
    | comment content | instruction target content =>
      simp only [childPairs, joinedText, load]
      omega

theorem weightBy_element (cost : Char → Nat) (name : Name) (spaces : List (String × String))
    (attributes : List Attribute) (children : List Node) :
    weightBy cost (Node.toJson (.element name spaces attributes children)) ≤
      valuesWeight cost (attributes.map Attribute.value) + loads cost children + 3 := by
  rw [Node.toJson, ← loads_eq]
  have value := weightBy_valueOf cost
    (Json.gatherAll (attributeMembers attributes) (childPairs children)) (joinedText children)
  have members := weightByMembers_gatherAll cost (Dict.sorted_ofList
    (attributes.map fun a => ("@" ++ a.name.localPart, Json.str a.value))) (childPairs children)
  have given := weightByMembers_attributes cost attributes
  rw [← attributeMembers] at members
  omega

theorem weightBy_element_empty (cost : Char → Nat) (name : Name) (spaces : List (String × String))
    (attributes : List Attribute) :
    weightBy cost (Node.toJson (.element name spaces attributes [])) ≤
      valuesWeight cost (attributes.map Attribute.value) + 1 := by
  rw [Node.toJson, childPairs, joinedText]
  exact Nat.le_trans (weightBy_valueOf_empty cost _)
    (Nat.add_le_add_right (weightByMembers_attributes cost attributes) 1)

/-! ### What is read is paid for -/

theorem le_marked (mark : List Char) {behind : List Char} {n : Nat} (paid : n ≤ total cost behind) :
    n ≤ total cost (mark ++ behind) :=
  Nat.le_trans paid (total_of_suffix cost (List.suffix_append mark behind))

theorem comment_paid (cost : Char → Nat) {node : Node} (read : comment? cs = some (node, rest)) :
    load cost node + total cost rest ≤ total cost cs := by
  unfold comment? at read
  split at read
  · next before behind cut =>
    obtain ⟨after, ends, same⟩ := Option.map_eq_some_iff.mp read
    cases same
    rw [upTo_eq cut, after_eq ends, total_append, total_append, load]
    omega
  · cases read

theorem instruction_paid (fair : Fair cost) {node : Node}
    (read : instruction? cs = some (node, rest)) :
    load cost node + total cost rest ≤ total cost cs := by
  unfold instruction? at read
  split at read
  · cases read
  · next target behind name =>
    rw [looseName_eq name, total_append]
    dsimp only at read
    split at read
    · next spaced space =>
      have blank := space_paid fair space
      split at read
      · next before marked cut =>
        split at read
        · cases read
        · cases read
          have dropped := total_of_suffix cost (List.drop_suffix 2 marked)
          rw [upTo_eq cut, total_append] at blank
          rw [load]
          omega
      · cases read
    · split at read
      · split at read
        · cases read
        · cases read
          have first := total_le_cons cost '?' ('>' :: rest)
          have second := total_le_cons cost '>' rest
          rw [load]
          omega
      · cases read

theorem section_paid (cost : Char → Nat) {node : Node} (read : section? cs = some (node, rest)) :
    load cost node + total cost rest ≤ total cost cs := by
  obtain ⟨⟨before, marked⟩, cut, same⟩ := Option.map_eq_some_iff.mp read
  cases same
  have dropped := total_of_suffix cost (List.drop_suffix 3 marked)
  rw [upTo_eq cut, total_append, load, String.toList_ofList]
  omega

theorem closing_paid (fair : Fair cost) {name : WrittenName} (read : closing? name cs = some rest) :
    total cost rest + 2 ≤ total cost cs := by
  unfold closing? at read
  split at read
  · next other behind nameRead =>
    have namePaid := name_paid fair nameRead
    split at read
    · next after lead =>
      split at read
      · cases read
        have mark := mark_paid fair lead
        omega
      · cases read
    · cases read
  · cases read

section Step

-- what is read with the fuel that is left after one step
variable {fuel : Nat} (fair : Fair cost)
  (element : ∀ {spaces cs node rest}, element? fuel spaces cs = some (node, rest) →
    load cost node + total cost rest ≤ total cost ('<' :: cs))
  (content : ∀ {spaces cs nodes rest}, content? fuel spaces cs = some (nodes, rest) →
    loads cost nodes + total cost rest + 2 ≤ total cost cs)

include fair content in
/-- An element is paid for, with the angle bracket that opens it. -/
theorem element_paid {spaces : Spaces} {node : Node}
    (read : element? (fuel + 1) spaces cs = some (node, rest)) :
    load cost node + total cost rest ≤ total cost ('<' :: cs) := by
  have bracket := fair.lt_cons '<' cs
  rw [element?] at read
  split at read
  · cases read
  · next written named nameRead =>
    have namePaid := name_paid fair nameRead
    split at read
    · cases read
    · next writtenAttributes ending tagged attributesRead =>
      have attributesPaid := attributes_paid fair attributesRead
      split at read
      · cases read
      · next inner declared =>
        split at read
        · next name attributes _ known =>
          have kept := attributes_kept cost known
          cases ending with
          | empty =>
            cases read
            have value := weightBy_element_empty cost name inner.prefixed attributes
            rw [TagEnd.length] at attributesPaid
            rw [load]
            omega
          | «open» =>
            dsimp only at read
            split at read
            · cases read
            · next children behind contentRead =>
              obtain ⟨after, closed, same⟩ := Option.map_eq_some_iff.mp read
              cases same
              have contentPaid := content contentRead
              have closingPaid := closing_paid fair closed
              have value := weightBy_element cost name inner.prefixed attributes children
              rw [TagEnd.length] at attributesPaid
              rw [load]
              omega
        · cases read

include content in
/-- One node in front of those that follow. -/
theorem paid_next {spaces : Spaces} {step : Option (Node × List Char)} {nodes : List Node}
    (read : (match step with
      | none => none
      | some (node, rest) => (content? fuel spaces rest).map fun (nodes, rest) => (node :: nodes, rest)) =
        some (nodes, rest))
    (first : ∀ node behind, step = some (node, behind) →
      load cost node + total cost behind ≤ total cost cs) :
    loads cost nodes + total cost rest + 2 ≤ total cost cs := by
  cases step with
  | none => cases read
  | some pair =>
    obtain ⟨node, behind⟩ := pair
    obtain ⟨⟨others, last⟩, there, same⟩ := Option.map_eq_some_iff.mp read
    cases same
    have front := first node behind rfl
    have back := content there
    rw [loads_cons]
    omega

include fair element content in
theorem content_paid {spaces : Spaces} {nodes : List Node}
    (read : content? (fuel + 1) spaces cs = some (nodes, rest)) :
    loads cost nodes + total cost rest + 2 ≤ total cost cs := by
  unfold content? at read
  dsimp only at read
  split at read
  · cases read
  · next behind =>
    cases read
    have first := fair.lt_cons '<' ('/' :: rest)
    have second := fair.lt_cons '/' rest
    simp only [loads, List.map_nil, List.sum_nil]
    omega
  · exact paid_next content read fun node behind made =>
      le_marked ['<', '!', '-', '-'] (comment_paid cost made)
  · exact paid_next content read fun node behind made =>
      le_marked ['<', '!', '[', 'C', 'D', 'A', 'T', 'A', '['] (section_paid cost made)
  · exact paid_next content read fun node behind made =>
      le_marked ['<', '?'] (instruction_paid fair made)
  · exact paid_next content read fun node behind made => element made
  · next inside =>
    refine paid_next content read fun node behind made => ?_
    obtain ⟨⟨c, after⟩, reference, same⟩ := Option.map_eq_some_iff.mp made
    cases same
    have ampersand := fair.lt_cons '&' inside
    have length := reference_paid fair reference
    have few := fair.few c
    have alone : total cost [c] = cost c := rfl
    rw [load, String.toList_ofList, alone]
    dsimp only
    omega
  · split at read
    · cases read
    · next text behind _ cut =>
      refine @paid_next cost cs rest fuel content spaces
        (some (.text (String.ofList text), behind)) nodes read fun node after made => ?_
      cases made
      rw [characters_eq cs, cut, load, String.toList_ofList]
      exact Nat.le_of_eq (total_append cost text behind).symm

end Step

/-- Elements and their content are paid for: by induction on the fuel, for both readers at once. -/
theorem paid_read (fair : Fair cost) (fuel : Nat) :
    (∀ {spaces cs node rest}, element? fuel spaces cs = some (node, rest) →
      load cost node + total cost rest ≤ total cost ('<' :: cs)) ∧
    (∀ {spaces cs nodes rest}, content? fuel spaces cs = some (nodes, rest) →
      loads cost nodes + total cost rest + 2 ≤ total cost cs) := by
  induction fuel with
  | zero =>
    constructor
    · intro spaces cs node rest read
      cases read
    · intro spaces cs nodes rest read
      cases read
  | succ fuel ih =>
    obtain ⟨element, content⟩ := ih
    exact ⟨element_paid fair content, content_paid fair element content⟩

/-! ### Documents -/

theorem top_paid (fair : Fair cost) {fuel : Nat} {rooted : Bool} {nodes : List Node}
    (read : top? fuel rooted cs = some nodes) : loads cost nodes ≤ total cost cs := by
  induction fuel generalizing rooted cs nodes with
  | zero => cases read
  | succ fuel ih =>
    -- one node in front of the others, whatever mark opens it
    have step (mark : List Char) {behind : List Char} (lead : skipSpace cs = mark ++ behind)
        {node : Node} {after : List Char} {others : List Node} {rooted : Bool}
        (first : load cost node + total cost after ≤ total cost (mark ++ behind))
        (more : top? fuel rooted after = some others) :
        loads cost (node :: others) ≤ total cost cs := by
      have skipped := total_skipSpace cost cs
      have back := ih more
      rw [lead] at skipped
      rw [loads_cons]
      omega
    unfold top? at read
    dsimp only at read
    split at read
    · split at read
      · cases read
        exact Nat.zero_le _
      · cases read
    · next lead =>
      obtain ⟨node, after, others, made, more, rfl⟩ := top_next read
      exact step ['<', '!', '-', '-'] lead (le_marked _ (comment_paid cost made)) more
    · next lead =>
      obtain ⟨node, after, others, made, more, rfl⟩ := top_next read
      exact step ['<', '?'] lead (le_marked _ (instruction_paid fair made)) more
    · next lead =>
      split at read
      · cases read
      · obtain ⟨node, after, others, made, more, rfl⟩ := top_next read
        exact step ['<'] lead ((paid_read fair _).1 made) more
    · cases read

theorem space_suffix (read : space? cs = some rest) : rest <:+ cs := by
  cases cs with
  | nil => cases read
  | cons c cs =>
    rw [space?] at read
    split at read
    · cases read
      exact (List.dropWhile_suffix _).trans (List.suffix_cons _ _)
    · cases read

theorem after_suffix {mark : List Char} (read : after? mark cs = some rest) : rest <:+ cs := by
  rw [after_eq read]
  exact List.suffix_append _ _

theorem equals_suffix (read : equals? cs = some rest) : rest <:+ cs := by
  unfold equals? at read
  split at read
  · next behind lead =>
    cases read
    have mark : behind <:+ skipSpace cs := lead ▸ List.suffix_cons _ _
    exact (List.dropWhile_suffix _).trans (mark.trans (List.dropWhile_suffix _))
  · cases read

theorem declared_suffix {allowed : List Char → Bool} (read : declared? allowed cs = some rest) :
    rest <:+ cs := by
  cases cs with
  | nil => cases read
  | cons q cs =>
    rw [declared?] at read
    split at read
    · dsimp only at read
      split at read
      · next quote behind lead =>
        split at read
        · cases read
          have value : quote :: rest <:+ cs := lead ▸ List.dropWhile_suffix _
          exact ((List.suffix_cons _ _).trans value).trans (List.suffix_cons _ _)
        · cases read
      · cases read
    · cases read

theorem declaration_suffix {name : List Char} {allowed : List Char → Bool}
    (read : declaration? name allowed cs = some rest) : rest <:+ cs := by
  obtain ⟨named, read, value⟩ := Option.bind_eq_some_iff.mp read
  obtain ⟨spaced, space, name⟩ := Option.bind_eq_some_iff.mp read
  obtain ⟨quoted, equals, declared⟩ := Option.bind_eq_some_iff.mp value
  exact (declared_suffix declared).trans
    ((equals_suffix equals).trans ((after_suffix name).trans (space_suffix space)))

theorem afterDeclaration_suffix (cs : List Char) : afterDeclaration cs <:+ cs := by
  have getD {name : List Char} {allowed : List Char → Bool} (cs : List Char) :
      (declaration? name allowed cs).getD cs <:+ cs := by
    cases read : declaration? name allowed cs with
    | none => exact List.suffix_refl _
    | some rest => exact declaration_suffix read
  rw [afterDeclaration]
  dsimp only
  cases whole : (do
    let rest ← after? ['<', '?', 'x', 'm', 'l'] cs
    let rest ← declaration? "version".toList isVersion rest
    let rest := (declaration? "encoding".toList isEncoding rest).getD rest
    let rest := (declaration? "standalone".toList isChoice rest).getD rest
    after? ['?', '>'] (skipSpace rest)) with
  | none => exact List.suffix_refl _
  | some rest =>
    obtain ⟨opened, mark, whole⟩ := Option.bind_eq_some_iff.mp whole
    obtain ⟨versioned, version, whole⟩ := Option.bind_eq_some_iff.mp whole
    exact (after_suffix whole).trans ((List.dropWhile_suffix _).trans ((getD _).trans
      ((getD _).trans ((declaration_suffix version).trans (after_suffix mark)))))

/-- The object for an XML text weighs less than the characters of the text cost. -/
theorem toJson_paid (fair : Fair cost) {text : String} {j : Json} (read : toJson? text = some j) :
    weightBy cost j < total cost text.toList := by
  unfold toJson? at read
  split at read
  · obtain ⟨document, parsed, made⟩ := Option.bind_eq_some_iff.mp read
    obtain ⟨nodes, there, rfl⟩ := Option.map_eq_some_iff.mp parsed
    have whole := top_paid fair there
    have declared := total_of_suffix cost (afterDeclaration_suffix text.toList)
    rw [Document.toJson?] at made
    split at made
    · next name spaces attributes children root =>
      cases made
      have among : load cost (.element name spaces attributes children) ≤ loads cost nodes :=
        List.single_le_sum (fun _ _ => Nat.zero_le _) _
          (List.mem_map_of_mem (List.mem_of_find?_eq_some root))
      rw [load] at among
      rw [weightBy, weightByMembers, weightByMembers]
      omega
    · cases made
  · cases read

/-- An object that is read from XML weighs less than its text has bytes. -/
theorem toJson_weight {text : String} {j : Json} (read : toJson? text = some j) :
    j.weight < text.utf8ByteSize := by
  have bound := toJson_paid Json.fair_utf8Size read
  rwa [← Json.weight_eq, Json.total_utf8Size, String.ofList_toList] at bound

end VirtualService.Xml
