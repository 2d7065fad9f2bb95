/-
  VirtualService/Proofs/Descent.lean
  ==================================
  **Comparisons end, however deep text is nested in text.**

  A comparison goes down into the expected value, into arrays, and into what a text
  stands for, while it keeps what it expects.  Each of the three comparisons is told
  as one call that makes further calls (`satisfiesOnce`, `deepEqualOnce`,
  `presentOnce`), together with the calls that it can make (`Calls`, `PlaceCalls`).
  Every call expects a part of what was expected, or the same of a lighter value: an
  item weighs less than its array, and what a text stands for less than the text,
  whether it is read as JSON or as XML (`interpret_lighter`).  So no chain of calls
  goes on for ever, and at a depth that is known from the start the calls have come
  to an end (`Ends`).
-/
import VirtualService.Proofs.Markup
import VirtualService.Proofs.Template
import VirtualService.Proofs.TextsWithin

namespace VirtualService

/-! ### Lighter values -/

theorem Json.weight_member {m : KeyMatch} {members : Dict Json} {key : String} {value : Json}
    (found : m.find? members key = some value) : value.weight < (Json.obj members).weight := by
  obtain ⟨entry, lookup, rfl⟩ := Option.map_eq_some_iff.mp found
  rw [weight_eq, weight_eq]
  exact weightBy_member_lt _ (KeyMatch.lookup?_eq_some lookup).1

/-- What a text stands for weighs less than the text. -/
theorem interpret_lighter {text : String} {j : Json} (read : interpret text = some j) :
    j.weight < (Json.str text).weight := by
  have bound : j.weight ≤ text.utf8ByteSize := by
    rw [interpret] at read
    split at read
    · cases read
    · next found =>
      cases read
      exact Json.ofText_weight found
    · exact Nat.le_of_lt (Xml.toJson_weight read)
  rw [Json.weight]
  omega

/-! ### Tests that agree where they are made -/

theorem any_congr {α : Type} {p q : α → Bool} {l : List α} (same : ∀ a ∈ l, p a = q a) :
    l.any p = l.any q := by
  rw [Bool.eq_iff_iff, List.any_eq_true, List.any_eq_true]
  exact exists_congr fun a => and_congr_right fun mem => by rw [same a mem]

theorem all_congr {α : Type} {p q : α → Bool} {l : List α} (same : ∀ a ∈ l, p a = q a) :
    l.all p = l.all q := by
  rw [Bool.eq_iff_iff, List.all_eq_true, List.all_eq_true]
  exact forall₂_congr fun a mem => by rw [same a mem]

theorem Option.any_congr {α : Type} {p q : α → Bool} {o : Option α}
    (same : ∀ a, o = some a → p a = q a) : o.any p = o.any q := by
  cases o with
  | none => rfl
  | some a => exact same a rfl

/-! ### Recursions that end -/

section Recursion

variable {α : Type}

/-- A recursion whose calls are nested so deep at most; what they would ask further is guessed. -/
def cutOff (once : (Expected → α → Bool) → Expected → α → Bool) (guess : Expected → α → Bool) :
    Nat → Expected → α → Bool
  | 0 => guess
  | depth + 1 => once (cutOff once guess depth)

/-- A comparison that is made by recursion comes to an end.  In `once`, which is one call, its
    argument stands for the calls that this call makes. -/
structure Ends (weight : α → Nat) (compare : Expected → α → Bool)
    (once : (Expected → α → Bool) → Expected → α → Bool)
    (Calls : Expected → α → Expected → α → Prop) : Prop where
  /-- The comparison is made by such calls. -/
  recursive (e : Expected) (a : α) : compare e a = once compare e a
  /-- A call makes no other calls. -/
  calls (f g : Expected → α → Bool) (e : Expected) (a : α) :
    (∀ e' a', Calls e a e' a' → f e' a' = g e' a') → once f e a = once g e a
  /-- A call that is made expects something smaller, or the same of something lighter. -/
  descends (e : Expected) (a : α) (e' : Expected) (a' : α) :
    Calls e a e' a' → sizeOf e' < sizeOf e ∨ e' = e ∧ weight a' < weight a
  /-- No chain of calls goes on for ever. -/
  wellFounded : WellFounded fun callee caller : Expected × α =>
    Calls caller.1 caller.2 callee.1 callee.2
  /-- At this depth no call is made any more. -/
  settles (guess : Expected → α → Bool) (e : Expected) (a : α) (depth : Nat) :
    sizeOf e + weight a < depth → cutOff once guess depth e a = compare e a

/-- What a comparison does in one call shows that it ends, if the calls that it makes descend and no
    actual value gets heavier. -/
theorem Ends.of_calls {weight : α → Nat} {compare : Expected → α → Bool}
    {once : (Expected → α → Bool) → Expected → α → Bool}
    {Calls : Expected → α → Expected → α → Prop}
    (recursive : ∀ e a, compare e a = once compare e a)
    (calls : ∀ f g e a, (∀ e' a', Calls e a e' a' → f e' a' = g e' a') → once f e a = once g e a)
    (descends : ∀ {e a e' a'}, Calls e a e' a' →
      sizeOf e' < sizeOf e ∧ weight a' ≤ weight a ∨ e' = e ∧ weight a' < weight a) :
    Ends weight compare once Calls where
  recursive := recursive
  calls := calls
  descends e a e' a' called := (descends called).imp And.left id
  wellFounded := by
    refine Subrelation.wf ?_ (InvImage.wf (fun pair : Expected × α => (sizeOf pair.1, weight pair.2))
      (Prod.lex Nat.lt_wfRel Nat.lt_wfRel).wf)
    intro callee caller called
    rcases descends called with ⟨smaller, -⟩ | ⟨same, lighter⟩
    · exact Prod.Lex.left _ _ smaller
    · show Prod.Lex _ _ (sizeOf callee.1, _) (sizeOf caller.1, _)
      rw [same]
      exact Prod.Lex.right _ lighter
  settles guess e a depth := by
    -- one call less deep, each call it makes has settled
    induction depth generalizing e a with
    | zero => exact fun none => absurd none (Nat.not_lt_zero _)
    | succ depth ih =>
      intro room
      rw [cutOff, recursive e a]
      refine calls _ _ e a fun e' a' called => ih e' a' ?_
      rcases descends called with ⟨smaller, lighter⟩ | ⟨rfl, lighter⟩ <;> omega

end Recursion

namespace Comparison

/-! ### The calls of a comparison of values -/

/-- The calls that one call of `satisfies` or `deepEqual` can make.  Only `satisfies` asks the same
    of the items of an array. -/
inductive Calls (m : KeyMatch) : Expected → Json → Expected → Json → Prop
  | item (e : Expected) {items : List Json} {item : Json} (mem : item ∈ items) :
      Calls m e (.arr items) e item
  | text (e : Expected) {text : String} {j : Json} (read : interpret text = some j) :
      Calls m e (.str text) e j
  | child {children : List Expected} {child : Expected} {items : List Json} {item : Json}
      (expected : child ∈ children) (mem : item ∈ items) :
      Calls m (.items children) (.arr items) child item
  | member {entries : List (String × Expected)} {entry : String × Expected} {members : Dict Json}
      {value : Json} (expected : entry ∈ entries) (found : m.find? members entry.1 = some value) :
      Calls m (.members entries) (.obj members) entry.2 value

theorem Calls.descends {m : KeyMatch} {e e' : Expected} {j j' : Json} (called : Calls m e j e' j') :
    sizeOf e' < sizeOf e ∧ j'.weight ≤ j.weight ∨ e' = e ∧ j'.weight < j.weight := by
  cases called with
  | item e mem => exact .inr ⟨rfl, Json.weight_lt_of_mem mem⟩
  | text e read => exact .inr ⟨rfl, interpret_lighter read⟩
  | child expected mem =>
    exact .inl ⟨Expected.sizeOf_child expected, Nat.le_of_lt (Json.weight_lt_of_mem mem)⟩
  | member expected found =>
    exact .inl ⟨Expected.sizeOf_entry expected, Nat.le_of_lt (Json.weight_member found)⟩

/-! ### Templates -/

/-- One call of `satisfies`. -/
def satisfiesOnce (c : Comparison) (again : Expected → Json → Bool) : Expected → Json → Bool
  | .scalar expected, .arr items => items.any (again (.scalar expected))
  | .scalar _, .obj _ => false
  | .scalar expected, actual => c.scalar expected actual
  | .members entries, .obj members =>
      entries.all fun entry => (c.keyMatch.find? members entry.1).any (again entry.2)
  | .members entries, .arr items => items.any (again (.members entries))
  | .members entries, .str text => (interpret text).any (again (.members entries))
  | .members _, _ => false
  | .items children, .arr items => children.all fun child => items.any (again child)
  | .items children, .str text => (interpret text).any (again (.items children))
  | .items _, _ => false

variable {c : Comparison}

/-- A text is entered as what it stands for, which is entered as it is. -/
theorem entered_text {text : String} {j : Json} (read : interpret text = some j) :
    (Json.str text).entered = j.entered := by
  cases j with
  | str s => exact absurd read (interpret_ne_str text s)
  | _ => simp only [Json.entered, read, Option.getD_some]

theorem satisfies_recursive (e : Expected) (j : Json) :
    c.satisfies e j = c.satisfiesOnce c.satisfies e j := by
  rw [Bool.eq_iff_iff]
  cases e with
  | scalar expected =>
    cases j with
    | arr items =>
      simp only [satisfiesOnce, List.any_eq_true, satisfies_scalar_iff, Json.mem_opened_arr]
      constructor
      · rintro ⟨part, ⟨item, mem, within⟩, holds⟩
        exact ⟨item, mem, part, within, holds⟩
      · rintro ⟨item, mem, part, within, holds⟩
        exact ⟨part, ⟨item, mem, within⟩, holds⟩
    | _ => simp [satisfies, satisfiesOnce, Json.opened, part, Json.isStructured]
  | items children =>
    cases j with
    | arr items =>
      simp [satisfies_items_iff, satisfiesOnce, Json.entered]
    | str text =>
      cases read : interpret text with
      | none => simp [satisfies_items_iff, satisfiesOnce, Json.entered, read]
      | some j => simp [satisfies_items_iff, satisfiesOnce, entered_text read, read]
    | _ => simp [satisfies_items_iff, satisfiesOnce, Json.entered]
  | members entries =>
    cases j with
    | obj members =>
      simp [satisfies_members_iff, satisfiesOnce, Json.views_obj, Option.any_eq_true]
    | arr items =>
      rw [satisfies_members_arr, satisfiesOnce, List.any_eq_true]
    | str text =>
      cases read : interpret text with
      | none => simp [satisfies_members_iff, satisfiesOnce, Json.views, read]
      | some j =>
        simp [satisfies_members_iff, satisfiesOnce, Json.views_text read, read]
    | _ => simp [satisfies_members_iff, satisfiesOnce, Json.views]

theorem satisfiesOnce_calls (f g : Expected → Json → Bool) (e : Expected) (j : Json)
    (same : ∀ e' j', Calls c.keyMatch e j e' j' → f e' j' = g e' j') :
    c.satisfiesOnce f e j = c.satisfiesOnce g e j := by
  cases e with
  | scalar expected =>
    cases j with
    | arr items => exact any_congr fun item mem => same _ _ (.item _ mem)
    | _ => rfl
  | items children =>
    cases j with
    | arr items =>
      exact all_congr fun child expected =>
        any_congr fun item mem => same _ _ (.child expected mem)
    | str text => exact Option.any_congr fun j read => same _ _ (.text _ read)
    | _ => rfl
  | members entries =>
    cases j with
    | obj members =>
      exact all_congr fun entry expected =>
        Option.any_congr fun value found => same _ _ (.member expected found)
    | arr items => exact any_congr fun item mem => same _ _ (.item _ mem)
    | str text => exact Option.any_congr fun j read => same _ _ (.text _ read)
    | _ => rfl

theorem satisfies_ends (c : Comparison) :
    Ends Json.weight c.satisfies c.satisfiesOnce (Calls c.keyMatch) :=
  .of_calls satisfies_recursive satisfiesOnce_calls Calls.descends

/-! ### Deep equality -/

/-- Each expected item takes the first actual item left of which the answer is yes. -/
def itemsOnce (again : Expected → Json → Bool) : List Expected → List Json → Bool
  | [], _ => true
  | child :: children, items =>
      match takeFirst (again child) items with
      | some rest => itemsOnce again children rest
      | none => false

/-- Each expected key claims an actual key of its own. -/
def membersOnce (m : KeyMatch) (again : Expected → Json → Bool) :
    List (String × Expected) → Dict Json → List String → Bool
  | [], _, _ => true
  | (key, child) :: entries, members, claimed =>
      match m.lookup? members key with
      | some (actualKey, value) =>
          !claimed.contains actualKey && again child value &&
            membersOnce m again entries members (actualKey :: claimed)
      | none => false

/-- One call of `deepEqual`. -/
def deepEqualOnce (c : Comparison) (again : Expected → Json → Bool) : Expected → Json → Bool
  | .scalar _, .arr _ => false
  | .scalar _, .obj _ => false
  | .scalar expected, actual => c.scalar expected actual
  | .members entries, .obj members =>
      entries.length == members.length && membersOnce c.keyMatch again entries members []
  | .items children, .arr items =>
      children.length == items.length && itemsOnce again children items
  | .members entries, .str text => (interpret text).any (again (.members entries))
  | .items children, .str text => (interpret text).any (again (.items children))
  | .members _, _ => false
  | .items _, _ => false

theorem itemsOnce_deepEqual (children : List Expected) (items : List Json) :
    itemsOnce c.deepEqual children items = c.deepEqualItems children items := by
  induction children generalizing items with
  | nil => rfl
  | cons child children ih =>
    rw [itemsOnce, deepEqualItems]
    cases takeFirst (c.deepEqual child) items with
    | none => rfl
    | some rest => exact ih rest

theorem membersOnce_deepEqual (entries : List (String × Expected)) (members : Dict Json)
    (claimed : List String) :
    membersOnce c.keyMatch c.deepEqual entries members claimed =
      c.deepEqualMembers entries members claimed := by
  induction entries generalizing claimed with
  | nil => rfl
  | cons entry entries ih =>
    obtain ⟨key, child⟩ := entry
    rw [membersOnce, deepEqualMembers]
    cases c.keyMatch.lookup? members key with
    | none => rfl
    | some found => simp only [ih]

theorem deepEqual_recursive (e : Expected) (j : Json) :
    c.deepEqual e j = c.deepEqualOnce c.deepEqual e j := by
  cases e with
  | scalar expected => cases j <;> simp [deepEqual, deepEqualOnce, part, Json.isStructured]
  | items children =>
    cases j with
    | str text =>
      cases read : interpret text with
      | none => simp [deepEqual, deepEqualOnce, Json.entered, read]
      | some j =>
        rw [deepEqualOnce, read, Option.any_some, deepEqual, deepEqual, entered_text read]
    | _ => simp [deepEqual, deepEqualOnce, Json.entered, itemsOnce_deepEqual]
  | members entries =>
    cases j with
    | str text =>
      cases read : interpret text with
      | none => simp [deepEqual, deepEqualOnce, Json.entered, read]
      | some j =>
        rw [deepEqualOnce, read, Option.any_some, deepEqual, deepEqual, entered_text read]
    | _ => simp [deepEqual, deepEqualOnce, Json.entered, membersOnce_deepEqual]

theorem takeFirst_congr {test other : Json → Bool} {items : List Json}
    (same : ∀ item ∈ items, test item = other item) :
    takeFirst test items = takeFirst other items := by
  induction items with
  | nil => rfl
  | cons item items ih =>
    rw [takeFirst, takeFirst, same item List.mem_cons_self,
      ih fun later mem => same later (List.mem_cons_of_mem _ mem)]

theorem takeFirst_sublist {test : Json → Bool} {items rest : List Json}
    (taken : takeFirst test items = some rest) : rest.Sublist items := by
  induction items generalizing rest with
  | nil => cases taken
  | cons item items ih =>
    rw [takeFirst] at taken
    split at taken
    · cases taken
      exact List.sublist_cons_self _ _
    · obtain ⟨others, later, rfl⟩ := Option.map_eq_some_iff.mp taken
      exact (ih later).cons_cons item

theorem itemsOnce_congr {f g : Expected → Json → Bool} {children : List Expected}
    {items : List Json} (same : ∀ child ∈ children, ∀ item ∈ items, f child item = g child item) :
    itemsOnce f children items = itemsOnce g children items := by
  induction children generalizing items with
  | nil => rfl
  | cons child children ih =>
    rw [itemsOnce, itemsOnce, takeFirst_congr (same child List.mem_cons_self)]
    cases taken : takeFirst (g child) items with
    | none => rfl
    | some rest =>
      exact ih fun later expected item mem =>
        same later (List.mem_cons_of_mem _ expected) item ((takeFirst_sublist taken).subset mem)

theorem membersOnce_congr {m : KeyMatch} {f g : Expected → Json → Bool}
    {entries : List (String × Expected)} {members : Dict Json} (claimed : List String)
    (same : ∀ entry ∈ entries, ∀ value, m.find? members entry.1 = some value →
      f entry.2 value = g entry.2 value) :
    membersOnce m f entries members claimed = membersOnce m g entries members claimed := by
  induction entries generalizing claimed with
  | nil => rfl
  | cons entry entries ih =>
    obtain ⟨key, child⟩ := entry
    rw [membersOnce, membersOnce]
    cases found : m.lookup? members key with
    | none => rfl
    | some entry =>
      obtain ⟨actualKey, value⟩ := entry
      have first := same (key, child) List.mem_cons_self value (by rw [KeyMatch.find?, found]; rfl)
      have later := ih (actualKey :: claimed)
        fun other expected => same other (List.mem_cons_of_mem _ expected)
      dsimp only at first ⊢
      rw [first, later]

theorem deepEqualOnce_calls (f g : Expected → Json → Bool) (e : Expected) (j : Json)
    (same : ∀ e' j', Calls c.keyMatch e j e' j' → f e' j' = g e' j') :
    c.deepEqualOnce f e j = c.deepEqualOnce g e j := by
  cases e with
  | scalar expected => cases j <;> rfl
  | items children =>
    cases j with
    | arr items =>
      exact congrArg (_ && ·) (itemsOnce_congr fun child expected item mem =>
        same _ _ (.child expected mem))
    | str text => exact Option.any_congr fun j read => same _ _ (.text _ read)
    | _ => rfl
  | members entries =>
    cases j with
    | obj members =>
      exact congrArg (_ && ·) (membersOnce_congr [] fun entry expected value found =>
        same _ _ (.member expected found))
    | str text => exact Option.any_congr fun j read => same _ _ (.text _ read)
    | _ => rfl

theorem deepEqual_ends (c : Comparison) :
    Ends Json.weight c.deepEqual c.deepEqualOnce (Calls c.keyMatch) :=
  .of_calls deepEqual_recursive deepEqualOnce_calls Calls.descends

/-! ### Presence -/

/-- What a place weighs at which there may be nothing. -/
def placeWeight : Option Json → Nat
  | none => 0
  | some j => j.weight

/-- The calls that one call of `present` can make. -/
inductive PlaceCalls (m : KeyMatch) : Expected → Option Json → Expected → Option Json → Prop
  | item (e : Expected) {items : List Json} {item : Json} (mem : item ∈ items) :
      PlaceCalls m e (some (.arr items)) e (some item)
  | text (e : Expected) {text : String} {j : Json} (read : interpret text = some j) :
      PlaceCalls m e (some (.str text)) e (some j)
  | member {entries : List (String × Expected)} {entry : String × Expected} (members : Dict Json)
      (expected : entry ∈ entries) :
      PlaceCalls m (.members entries) (some (.obj members)) entry.2 (m.find? members entry.1)
  | absent {entries : List (String × Expected)} {entry : String × Expected} (place : Option Json)
      (expected : entry ∈ entries) : PlaceCalls m (.members entries) place entry.2 none

variable {m : KeyMatch}

theorem PlaceCalls.descends {e e' : Expected} {place place' : Option Json}
    (called : PlaceCalls m e place e' place') :
    sizeOf e' < sizeOf e ∧ placeWeight place' ≤ placeWeight place ∨
      e' = e ∧ placeWeight place' < placeWeight place := by
  cases called with
  | item e mem => exact .inr ⟨rfl, Json.weight_lt_of_mem mem⟩
  | text e read => exact .inr ⟨rfl, interpret_lighter read⟩
  | @member _ entry members expected =>
    refine .inl ⟨Expected.sizeOf_entry expected, ?_⟩
    cases found : m.find? members entry.1 with
    | none => exact Nat.zero_le _
    | some value => exact Nat.le_of_lt (Json.weight_member found)
  | absent place expected => exact .inl ⟨Expected.sizeOf_entry expected, Nat.zero_le _⟩

/-- One call of `present`. -/
def presentOnce (m : KeyMatch) (again : Expected → Option Json → Bool) :
    Expected → Option Json → Bool
  | .scalar (.presence flag), place => flag == isPresent place
  | .scalar _, _ => false
  | .items _, _ => false
  | .members entries, some (.obj members) =>
      entries.all fun entry => again entry.2 (m.find? members entry.1)
  | .members entries, some (.arr (item :: items)) =>
      (item :: items).any fun item => again (.members entries) (some item)
  | .members entries, some (.str text) =>
      match interpret text with
      | some j => again (.members entries) (some j)
      | none => entries.all fun entry => again entry.2 none
  | .members entries, _ => entries.all fun entry => again entry.2 none

theorem presentMembers_eq (entries : List (String × Expected)) (members : Dict Json) :
    presentMembers m entries members =
      entries.all fun entry => present m entry.2 (m.find? members entry.1) := by
  induction entries with
  | nil => rfl
  | cons entry entries ih => rw [presentMembers, ih, List.all_cons]

theorem absentMembers_eq (entries : List (String × Expected)) :
    absentMembers m entries = entries.all fun entry => present m entry.2 none := by
  induction entries with
  | nil => rfl
  | cons entry entries ih => rw [absentMembers, ih, List.all_cons]

theorem present_closed (entries : List (String × Expected)) {j : Json} (closed : j.Closed) :
    present m (.members entries) (some j) = entries.all fun entry => present m entry.2 none := by
  rw [present, closed.views, List.any_cons, List.any_nil, Bool.or_false]
  exact absentMembers_eq entries

theorem present_recursive (e : Expected) (place : Option Json) :
    present m e place = presentOnce m (present m) e place := by
  cases e with
  | scalar expected => cases expected <;> simp [present, presentOnce]
  | items children => simp [present, presentOnce]
  | members entries =>
    cases place with
    | none => exact absentMembers_eq entries
    | some j =>
      cases j with
      | obj members =>
        rw [present, Json.views_obj, List.any_cons, List.any_nil, Bool.or_false, presentOnce]
        exact presentMembers_eq entries members
      | arr items =>
        cases items with
        | nil => exact present_closed entries rfl
        | cons item items =>
          rw [Bool.eq_iff_iff, presentOnce, List.any_eq_true]
          simp only [present, List.any_eq_true, Json.mem_views_items (List.cons_ne_nil item items)]
          constructor
          · rintro ⟨view, ⟨within, mem, seen⟩, holds⟩
            exact ⟨within, mem, view, seen, holds⟩
          · rintro ⟨within, mem, view, seen, holds⟩
            exact ⟨view, ⟨within, mem, seen⟩, holds⟩
      | str text =>
        rw [presentOnce]
        cases read : interpret text with
        | none => exact present_closed entries read
        | some j => simp only [present, Json.views_text read]
      | _ => exact present_closed entries trivial

theorem presentOnce_calls (f g : Expected → Option Json → Bool) (e : Expected)
    (place : Option Json)
    (same : ∀ e' place', PlaceCalls m e place e' place' → f e' place' = g e' place') :
    presentOnce m f e place = presentOnce m g e place := by
  cases e with
  | scalar expected => cases expected <;> rfl
  | items children => rfl
  | members entries =>
    have absent : (entries.all fun entry => f entry.2 none) =
        entries.all fun entry => g entry.2 none :=
      all_congr fun entry expected => same _ _ (.absent place expected)
    cases place with
    | none => exact absent
    | some j =>
      cases j with
      | obj members => exact all_congr fun entry expected => same _ _ (.member members expected)
      | arr items =>
        cases items with
        | nil => exact absent
        | cons item items => exact any_congr fun item mem => same _ _ (.item _ mem)
      | str text =>
        rw [presentOnce, presentOnce]
        cases read : interpret text with
        | none => exact absent
        | some j => exact same _ _ (.text _ read)
      | _ => exact absent

theorem present_ends (m : KeyMatch) :
    Ends placeWeight (present m) (presentOnce m) (PlaceCalls m) :=
  .of_calls present_recursive presentOnce_calls PlaceCalls.descends

/-! ### All three -/

/-- The three comparisons end.  Every call that they make on the way expects something smaller, or
    the same of something lighter, because a text never stands for a bare text, what is read from XML
    is an object, and any text within the value of a JSON text has fewer bytes than the JSON text. -/
theorem comparisons_end (c : Comparison) :
    Ends Json.weight c.satisfies c.satisfiesOnce (Calls c.keyMatch) ∧
    Ends Json.weight c.deepEqual c.deepEqualOnce (Calls c.keyMatch) ∧
    Ends placeWeight (present c.keyMatch) (presentOnce c.keyMatch) (PlaceCalls c.keyMatch) ∧
    (∀ text s : String, interpret text ≠ some (.str s)) ∧
    (∀ (text : String) (j : Json), Xml.toJson? text = some j → ∃ members, j = .obj members) ∧
    ∀ (text s : String) (j : Json), Json.ofText? text = some j → j.HasText s →
      s.utf8ByteSize < text.utf8ByteSize :=
  ⟨satisfies_ends c, deepEqual_ends c, present_ends c.keyMatch, interpret_ne_str,
    fun _ _ read => Xml.toJson_obj read, fun _ _ _ read has => Json.text_shorter read has⟩

end Comparison

end VirtualService
