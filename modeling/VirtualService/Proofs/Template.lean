/-
  VirtualService/Proofs/Template.lean
  ===================================
  **What a template leaves open.**

  A template asks for some of what a value has, so a value that has more satisfies
  it too.  To have more is said without templates (`Json.EmbeddedIn`): an array may
  have further items, and an object further members, as long as no two of its keys
  agree; a further key that agrees with another could hide it.  A template that is
  satisfied stays so under embedding (`satisfies_embedded`), by induction on the
  template, and where it expects an object also on the value.

  Permuting or repeating items of an array embeds the value in the new one and the
  new one in it (`Rearranged.embedded`), so no template tells the two apart.
-/
import Mathlib.Logic.Relation
import VirtualService.Proofs.Structure

namespace VirtualService

/-! ### What a template asks for -/

namespace Comparison

variable {c : Comparison}

theorem satisfies_scalar_iff {s : ExpectedScalar} {j : Json} :
    c.satisfies (.scalar s) j = true ↔ ∃ part ∈ j.opened, c.part s part = true := by
  rw [satisfies, List.any_eq_true]

theorem satisfiesItems_iff {children : List Expected} {items : List Json} :
    c.satisfiesItems children items = true ↔
      ∀ child ∈ children, ∃ item ∈ items, c.satisfies child item = true := by
  induction children with
  | nil => simp [satisfiesItems]
  | cons child children ih => simp [satisfiesItems, ih]

theorem satisfies_items_iff {children : List Expected} {j : Json} :
    c.satisfies (.items children) j = true ↔ ∃ items, j.entered = .arr items ∧
      ∀ child ∈ children, ∃ item ∈ items, c.satisfies child item = true := by
  rw [satisfies]
  split
  · next items entered => simp [entered, satisfiesItems_iff]
  · next other =>
    constructor
    · intro never
      cases never
    · rintro ⟨items, entered, -⟩
      exact absurd entered (other items)

theorem satisfiesMembers_iff {entries : List (String × Expected)} {members : Dict Json} :
    c.satisfiesMembers entries members = true ↔ ∀ entry ∈ entries, ∃ value,
      c.keyMatch.find? members entry.1 = some value ∧ c.satisfies entry.2 value = true := by
  induction entries with
  | nil => simp [satisfiesMembers]
  | cons entry entries ih =>
    obtain ⟨key, child⟩ := entry
    cases found : c.keyMatch.find? members key <;> simp [satisfiesMembers, found, ih]

theorem satisfies_members_iff {entries : List (String × Expected)} {j : Json} :
    c.satisfies (.members entries) j = true ↔ ∃ members, some members ∈ j.views ∧
      ∀ entry ∈ entries, ∃ value,
        c.keyMatch.find? members entry.1 = some value ∧ c.satisfies entry.2 value = true := by
  rw [satisfies, List.any_eq_true]
  constructor
  · rintro ⟨view, seen, holds⟩
    cases view with
    | none => cases holds
    | some members => exact ⟨members, seen, satisfiesMembers_iff.mp holds⟩
  · rintro ⟨members, seen, each⟩
    exact ⟨some members, seen, satisfiesMembers_iff.mpr each⟩

/-- In an array an object is looked for item by item. -/
theorem satisfies_members_arr {entries : List (String × Expected)} {items : List Json} :
    c.satisfies (.members entries) (.arr items) = true ↔
      ∃ item ∈ items, c.satisfies (.members entries) item = true := by
  simp only [satisfies_members_iff, Json.mem_views_arr]
  constructor
  · rintro ⟨members, ⟨item, mem, seen⟩, each⟩
    exact ⟨item, mem, members, seen, each⟩
  · rintro ⟨item, mem, members, seen, each⟩
    exact ⟨members, ⟨item, mem, seen⟩, each⟩

end Comparison

/-! ### Values with further items and members -/

namespace Json

mutual

/-- Another value has all that a value has: scalars are the same, every item of an array is embedded
    in some item, and every member of an object in the member of the same key.  Where keys are
    compared in lower case, no two keys of an object that has further members agree. -/
def EmbeddedIn (m : KeyMatch) : Json → Json → Prop
  | .arr items, larger => ∃ others, larger = .arr others ∧ ItemsEmbeddedIn m items others
  | .obj members, larger => ∃ others : Dict Json, larger = .obj others ∧
      (m = .folded → KeyMatch.folded.Apart others) ∧ MembersEmbeddedIn m members others
  | .null, larger => larger = .null
  | .bool b, larger => larger = .bool b
  | .num n, larger => larger = .num n
  | .str s, larger => larger = .str s

def ItemsEmbeddedIn (m : KeyMatch) : List Json → List Json → Prop
  | [], _ => True
  | item :: items, others =>
      (∃ other ∈ others, EmbeddedIn m item other) ∧ ItemsEmbeddedIn m items others

def MembersEmbeddedIn (m : KeyMatch) : List (String × Json) → Dict Json → Prop
  | [], _ => True
  | (key, value) :: members, others =>
      (∃ other, Dict.find? others key = some other ∧ EmbeddedIn m value other) ∧
        MembersEmbeddedIn m members others

end

variable {m : KeyMatch}

theorem embeddedIn_scalar {j larger : Json} (scalar : j.isStructured = false) :
    j.EmbeddedIn m larger ↔ larger = j := by
  cases j with
  | arr items => cases scalar
  | obj members => cases scalar
  | _ => rw [EmbeddedIn]

theorem itemsEmbeddedIn_iff {items others : List Json} :
    ItemsEmbeddedIn m items others ↔ ∀ item ∈ items, ∃ other ∈ others, item.EmbeddedIn m other := by
  induction items with
  | nil => simp [ItemsEmbeddedIn]
  | cons item items ih => simp [ItemsEmbeddedIn, ih]

theorem embeddedIn_arr {items : List Json} {larger : Json} :
    (Json.arr items).EmbeddedIn m larger ↔ ∃ others, larger = .arr others ∧
      ∀ item ∈ items, ∃ other ∈ others, item.EmbeddedIn m other := by
  simp only [EmbeddedIn, itemsEmbeddedIn_iff]

theorem membersEmbeddedIn_iff {members : List (String × Json)} {others : Dict Json} :
    MembersEmbeddedIn m members others ↔ ∀ member ∈ members, ∃ other,
      Dict.find? others member.1 = some other ∧ member.2.EmbeddedIn m other := by
  induction members with
  | nil => simp [MembersEmbeddedIn]
  | cons member members ih => simp [MembersEmbeddedIn, ih]

theorem embeddedIn_obj {members : Dict Json} {larger : Json} :
    (Json.obj members).EmbeddedIn m larger ↔ ∃ others : Dict Json, larger = .obj others ∧
      (m = .folded → KeyMatch.folded.Apart others) ∧ ∀ member ∈ members, ∃ other,
        Dict.find? others member.1 = some other ∧ member.2.EmbeddedIn m other := by
  simp only [EmbeddedIn, membersEmbeddedIn_iff]

/-- What opens to a scalar still does so where there is more. -/
theorem EmbeddedIn.opened {j larger : Json} (embedded : j.EmbeddedIn m larger) {part : Json}
    (mem : part ∈ j.opened) (scalar : part.isStructured = false) : part ∈ larger.opened := by
  induction j using Json.induction generalizing larger with
  | scalar j isScalar => rwa [(embeddedIn_scalar isScalar).mp embedded]
  | arr items ih =>
    obtain ⟨others, rfl, each⟩ := embeddedIn_arr.mp embedded
    obtain ⟨item, memItem, within⟩ := mem_opened_arr.mp mem
    obtain ⟨other, memOther, further⟩ := each item memItem
    exact mem_opened_arr.mpr ⟨other, memOther, ih item memItem further within⟩
  | obj members _ =>
    rw [Json.opened, List.mem_singleton] at mem
    rw [mem] at scalar
    cases scalar

end Json

/-- A key finds a member that has all that it found before. -/
theorem KeyMatch.find?_embedded {m : KeyMatch} {members others : Dict Json} {key : String}
    {value : Json} (apart : m = .folded → KeyMatch.folded.Apart others)
    (each : ∀ member ∈ members, ∃ other,
      Dict.find? others member.1 = some other ∧ member.2.EmbeddedIn m other)
    (found : m.find? members key = some value) :
    ∃ other, m.find? others key = some other ∧ value.EmbeddedIn m other := by
  obtain ⟨member, there, rfl⟩ := Option.map_eq_some_iff.mp found
  obtain ⟨mem, agree⟩ := KeyMatch.lookup?_eq_some there
  obtain ⟨other, stands, further⟩ := each member mem
  refine ⟨other, ?_, further⟩
  cases m with
  | folded =>
    have again := (apart rfl).lookup? (Dict.mem_of_find? stands) agree
    rw [KeyMatch.find?, again, Option.map_some]
  | exact =>
    have same : member.1 = key := agree
    rw [KeyMatch.find?_exact, ← same, stands]

namespace Comparison

variable {c : Comparison}

/-! ### More of a value satisfies no less -/

/-- A template that a value satisfies is satisfied by every value that has all that it has. -/
theorem satisfies_embedded {e : Expected} {j larger : Json} (embedded : j.EmbeddedIn c.keyMatch larger)
    (holds : c.satisfies e j = true) : c.satisfies e larger = true := by
  induction e using Expected.induction generalizing j larger with
  | scalar s =>
    obtain ⟨part, mem, own⟩ := satisfies_scalar_iff.mp holds
    have scalar : part.isStructured = false := by
      rw [Comparison.part, Bool.and_eq_true, Bool.not_eq_true'] at own
      exact own.1
    exact satisfies_scalar_iff.mpr ⟨part, embedded.opened mem scalar, own⟩
  | items children ih =>
    obtain ⟨items, entered, each⟩ := satisfies_items_iff.mp holds
    cases j with
    | arr own =>
      cases entered
      obtain ⟨others, rfl, further⟩ := Json.embeddedIn_arr.mp embedded
      refine satisfies_items_iff.mpr ⟨others, rfl, fun child mem => ?_⟩
      obtain ⟨item, memItem, own⟩ := each child mem
      obtain ⟨other, memOther, more⟩ := further item memItem
      exact ⟨other, memOther, ih child mem more own⟩
    | obj members => cases entered
    | _ => rwa [(Json.embeddedIn_scalar rfl).mp embedded]
  | members entries ih =>
    -- the template stays the same while arrays are searched, so here the induction is on the value
    induction j using Json.induction generalizing larger with
    | scalar j isScalar => rwa [(Json.embeddedIn_scalar isScalar).mp embedded]
    | arr items search =>
      obtain ⟨others, rfl, further⟩ := Json.embeddedIn_arr.mp embedded
      obtain ⟨item, mem, own⟩ := satisfies_members_arr.mp holds
      obtain ⟨other, memOther, more⟩ := further item mem
      exact satisfies_members_arr.mpr ⟨other, memOther, search item mem more own⟩
    | obj members _ =>
      obtain ⟨others, rfl, apart, further⟩ := Json.embeddedIn_obj.mp embedded
      obtain ⟨seen, mem, each⟩ := satisfies_members_iff.mp holds
      rw [Json.views_obj, List.mem_singleton] at mem
      cases mem
      refine satisfies_members_iff.mpr ⟨others, by simp [Json.views_obj], fun entry memEntry => ?_⟩
      obtain ⟨value, found, own⟩ := each entry memEntry
      obtain ⟨other, foundOther, more⟩ := KeyMatch.find?_embedded apart further found
      exact ⟨other, foundOther, ih entry memEntry more own⟩

end Comparison

/-! ### Items in another order, and more than once -/

namespace Json

/-- In one array, at any depth, the items are permuted or one of them is repeated. -/
inductive Rearranged : Json → Json → Prop
  | permuted {items others : List Json} (perm : items.Perm others) :
      Rearranged (.arr items) (.arr others)
  | repeated {items : List Json} {item : Json} (mem : item ∈ items) :
      Rearranged (.arr items) (.arr (item :: items))
  | item {before after : List Json} {item other : Json} (within : Rearranged item other) :
      Rearranged (.arr (before ++ item :: after)) (.arr (before ++ other :: after))
  | member {before after : Dict Json} {key : String} {value other : Json}
      (within : Rearranged value other) :
      Rearranged (.obj (before ++ (key, value) :: after)) (.obj (before ++ (key, other) :: after))

variable {m : KeyMatch}

theorem embeddedIn_self {j : Json} (apart : j.Apart m) : j.EmbeddedIn m j := by
  induction j using Json.induction with
  | scalar j isScalar => exact (embeddedIn_scalar isScalar).mpr rfl
  | arr items ih =>
    have each := apart_arr.mp apart
    exact embeddedIn_arr.mpr ⟨items, rfl, fun item mem => ⟨item, mem, ih item mem (each item mem)⟩⟩
  | obj members ih =>
    obtain ⟨keys, values⟩ := apart_obj.mp apart
    refine embeddedIn_obj.mpr ⟨members, rfl, ?_, fun member mem => ?_⟩
    · rintro rfl
      exact keys
    · exact ⟨member.2, keys.find? mem, ih member mem (values member mem)⟩

/-- Of arrays whose items are apart, one is embedded in another that has all of its items. -/
theorem arr_embeddedIn {items others : List Json} (apart : (Json.arr items).Apart m)
    (within : items ⊆ others) : (Json.arr items).EmbeddedIn m (.arr others) := by
  refine embeddedIn_arr.mpr ⟨others, rfl, fun item mem => ⟨item, within mem, ?_⟩⟩
  exact embeddedIn_self (apart_arr.mp apart item mem)

theorem item_embeddedIn {before after : List Json} {item other : Json}
    (further : item.EmbeddedIn m other)
    (apart : (Json.arr (before ++ item :: after)).Apart m) :
    (Json.arr (before ++ item :: after)).EmbeddedIn m (.arr (before ++ other :: after)) := by
  have each := apart_arr.mp apart
  refine embeddedIn_arr.mpr ⟨_, rfl, fun x mem => ?_⟩
  rcases List.mem_append.mp mem with earlier | later
  · exact ⟨x, List.mem_append_left _ earlier, embeddedIn_self (each x mem)⟩
  · rcases List.mem_cons.mp later with rfl | later
    · exact ⟨other, by simp, further⟩
    · exact ⟨x, by simp [later], embeddedIn_self (each x mem)⟩

theorem member_embeddedIn {before after : Dict Json} {key : String} {value other : Json}
    (further : value.EmbeddedIn m other)
    (apart : (Json.obj (before ++ (key, value) :: after)).Apart m) :
    (Json.obj (before ++ (key, value) :: after)).EmbeddedIn m
      (.obj (before ++ (key, other) :: after)) := by
  obtain ⟨keys, values⟩ := apart_obj.mp apart
  have keys' : m.Apart (before ++ (key, other) :: after) := by
    simpa [KeyMatch.Apart] using keys
  refine embeddedIn_obj.mpr ⟨_, rfl, ?_, fun member mem => ?_⟩
  · rintro rfl
    exact keys'
  · rcases List.mem_append.mp mem with earlier | later
    · exact ⟨member.2, keys'.find? (List.mem_append_left _ earlier),
        embeddedIn_self (values member mem)⟩
    · rcases List.mem_cons.mp later with rfl | later
      · exact ⟨other, keys'.find? (by simp), further⟩
      · exact ⟨member.2, keys'.find? (by simp [later]), embeddedIn_self (values member mem)⟩

/-- A value whose keys are apart is embedded in each of its rearrangements and they in it, and their
    keys are apart as well. -/
theorem Rearranged.embedded {j other : Json} (rearranged : j.Rearranged other) (apart : j.Apart m) :
    j.EmbeddedIn m other ∧ other.EmbeddedIn m j ∧ other.Apart m := by
  induction rearranged with
  | permuted perm =>
    have apart' := apart_arr.mpr fun x mem => apart_arr.mp apart x (perm.mem_iff.mpr mem)
    exact ⟨arr_embeddedIn apart perm.subset, arr_embeddedIn apart' perm.symm.subset, apart'⟩
  | @repeated items item mem =>
    have within : item :: items ⊆ items := List.cons_subset.mpr ⟨mem, List.Subset.refl items⟩
    have apart' := apart_arr.mpr fun x there => apart_arr.mp apart x (within there)
    exact ⟨arr_embeddedIn apart (List.subset_cons_self item items), arr_embeddedIn apart' within,
      apart'⟩
  | @item before after item other _ ih =>
    have each := apart_arr.mp apart
    obtain ⟨there, back, apartOther⟩ := ih (each item (by simp))
    have apart' : (Json.arr (before ++ other :: after)).Apart m := by
      refine apart_arr.mpr fun x mem => ?_
      rcases List.mem_append.mp mem with earlier | later
      · exact each x (List.mem_append_left _ earlier)
      · rcases List.mem_cons.mp later with rfl | later
        · exact apartOther
        · exact each x (by simp [later])
    exact ⟨item_embeddedIn there apart, item_embeddedIn back apart', apart'⟩
  | @member before after key value other _ ih =>
    obtain ⟨keys, values⟩ := apart_obj.mp apart
    obtain ⟨there, back, apartOther⟩ := ih (values (key, value) (by simp))
    have apart' : (Json.obj (before ++ (key, other) :: after)).Apart m := by
      refine apart_obj.mpr ⟨by simpa [KeyMatch.Apart] using keys, fun member mem => ?_⟩
      rcases List.mem_append.mp mem with earlier | later
      · exact values member (List.mem_append_left _ earlier)
      · rcases List.mem_cons.mp later with rfl | later
        · exact apartOther
        · exact values member (by simp [later])
    exact ⟨member_embeddedIn there apart, member_embeddedIn back apart', apart'⟩

end Json

namespace Comparison

variable {c : Comparison}

theorem satisfies_rearranged {e : Expected} {j other : Json} (apart : j.Apart c.keyMatch)
    (rearranged : j.Rearranged other) : c.satisfies e other = c.satisfies e j := by
  obtain ⟨there, back, -⟩ := rearranged.embedded apart
  rw [Bool.eq_iff_iff]
  exact ⟨satisfies_embedded back, satisfies_embedded there⟩

/-- A template that a value satisfies is satisfied by every value in which that one is embedded; and
    if no two keys of any object agree, permuting and repeating items of arrays, at any depth and any
    number of times, changes nothing. -/
theorem satisfies_ignores_extra (c : Comparison) (e : Expected) :
    (∀ j larger : Json, j.EmbeddedIn c.keyMatch larger → c.satisfies e j = true →
        c.satisfies e larger = true) ∧
      ∀ j other : Json, j.WellFormed → (c.keyMatch = .folded → j.Apart .folded) →
        Relation.ReflTransGen Json.Rearranged j other → c.satisfies e other = c.satisfies e j := by
  refine ⟨fun j larger => satisfies_embedded, ?_⟩
  intro j other wellFormed folded rearranged
  have kept : other.Apart c.keyMatch ∧ c.satisfies e other = c.satisfies e j := by
    induction rearranged with
    | refl => exact ⟨wellFormed.apart folded, rfl⟩
    | tail _ step ih =>
      obtain ⟨apart, same⟩ := ih
      exact ⟨(step.embedded apart).2.2, (satisfies_rearranged apart step).trans same⟩
  exact kept.2

/-- Part of a text, regardless of case. -/
def partly : Comparison := ⟨.containing, ⟨false, none⟩, .folded⟩

/-- An order with two lines. -/
def order : Json :=
  .obj [("lines", .arr [.obj [("sku", .str "A-1")], .obj [("sku", .str "B-2")]])]

/-- The order with a quantity in one line, a third line and a note. -/
def longerOrder : Json :=
  .obj [("lines", .arr [.obj [("qty", Json.int 2), ("sku", .str "B-2")], .str "gift",
      .obj [("sku", .str "A-1")]]), ("note", .null)]

/-- The order with its lines the other way round, and one of them twice. -/
def otherOrder : Json :=
  .obj [("lines", .arr [.obj [("sku", .str "A-1")], .obj [("sku", .str "B-2")],
      .obj [("sku", .str "A-1")]])]

theorem order_embedded : order.EmbeddedIn .folded longerOrder := by
  have first : (Json.obj [("sku", .str "A-1")]).EmbeddedIn .folded (.obj [("sku", .str "A-1")]) :=
    Json.embeddedIn_self ⟨by decide, trivial, trivial⟩
  have second : (Json.obj [("sku", .str "B-2")]).EmbeddedIn .folded
      (.obj [("qty", Json.int 2), ("sku", .str "B-2")]) := by
    refine Json.embeddedIn_obj.mpr ⟨_, rfl, fun _ => by decide, ?_⟩
    simp only [List.mem_singleton, forall_eq]
    exact ⟨.str "B-2", rfl, rfl⟩
  refine Json.embeddedIn_obj.mpr ⟨_, rfl, fun _ => by decide, ?_⟩
  simp only [List.mem_singleton, forall_eq]
  refine ⟨_, rfl, Json.embeddedIn_arr.mpr ⟨_, rfl, ?_⟩⟩
  simp [first, second]

theorem order_rearranged : Relation.ReflTransGen Json.Rearranged order otherOrder := by
  let a : Json := .obj [("sku", .str "A-1")]
  let b : Json := .obj [("sku", .str "B-2")]
  have repeated : Json.Rearranged (.arr [a, b]) (.arr [a, a, b]) := .repeated List.mem_cons_self
  have permuted : Json.Rearranged (.arr [a, a, b]) (.arr [a, b, a]) :=
    .permuted (.cons a (.swap b a []))
  exact .tail (.single (@Json.Rearranged.member [] [] "lines" _ _ repeated))
    (@Json.Rearranged.member [] [] "lines" _ _ permuted)

/-- Some line whose number contains a letter. -/
def someLine : Expected := .members [("LINES", .members [("sku", .scalar (.text "b"))])]

/-- A template for one line holds of the order, of a longer one, and of the lines in another order. -/
theorem someLine_of_order :
    Expected.compile .contains partly.normalizer (.obj [("LINES", .obj [("sku", .str "B")])]) =
        .ok someLine ∧
      order.EmbeddedIn .folded longerOrder ∧ partly.satisfies someLine longerOrder = true ∧
      order.WellFormed ∧ order.Apart .folded ∧
      Relation.ReflTransGen Json.Rearranged order otherOrder ∧
      partly.satisfies someLine otherOrder = partly.satisfies someLine order := by
  have holds : partly.satisfies someLine order = true := by decide +kernel
  have wellFormed : order.WellFormed := by
    simp [order, Json.wellFormed_obj, Json.WellFormed, Json.WellFormedItems,
      Json.WellFormedMembers, Dict.Above]
  have apart : order.Apart .folded :=
    ⟨by decide, ⟨⟨by decide, trivial, trivial⟩, ⟨by decide, trivial, trivial⟩, trivial⟩, trivial⟩
  obtain ⟨larger, rearranged⟩ := satisfies_ignores_extra partly someLine
  exact ⟨rfl, order_embedded, larger _ _ order_embedded holds, wellFormed, apart,
    order_rearranged, rearranged _ _ wellFormed (fun _ => apart) order_rearranged⟩

end Comparison

end VirtualService
