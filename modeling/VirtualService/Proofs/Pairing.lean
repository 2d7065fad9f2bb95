/-
  VirtualService/Proofs/Pairing.lean
  ==================================
  **Deep equality of arrays.**

  Each expected item takes the first item that it is deep equal to and that no item
  before it has taken.  What is taken so is a pairing of all items (`paired`).  That
  a pairing is found whenever there is one needs more: where two expected items are
  deep equal to one value, they have to be deep equal to the same values, so that
  what the first takes away the second can make good (`Exchangeable`).

  Two kinds of expected values are never exchanged.  A text may be deep equal to an
  expected text, as it is, and to an expected array or object, as what it stands for.
  Where no text among the actual values is both (`Unambiguous`), every expected value
  is exchangeable, by induction on it (`exchangeable`), and the order of the items
  does not count.  Where some text is, it does (`crossed_order_counts`).
-/
import Mathlib.Data.Multiset.ZeroCons
import VirtualService.Proofs.Recognition

namespace VirtualService

/-! ### Pairings -/

section Pairings

variable {α β γ : Type} {R : α → β → Prop} {S : β → γ → Prop}

theorem rel_comp {as : Multiset α} {bs : Multiset β} {cs : Multiset γ}
    (first : Multiset.Rel R as bs) (second : Multiset.Rel S bs cs) :
    Multiset.Rel (fun a c => ∃ b ∈ bs, R a b ∧ S b c) as cs := by
  induction first generalizing cs with
  | zero =>
    rw [Multiset.rel_zero_left] at second
    rw [second]
    exact .zero
  | cons ab _ ih =>
    obtain ⟨c, rest, bc, later, rfl⟩ := Multiset.rel_cons_left.mp second
    refine .cons ⟨_, Multiset.mem_cons_self _ _, ab, bc⟩ ((ih later).mono ?_)
    rintro a - c' - ⟨b, mem, related⟩
    exact ⟨b, Multiset.mem_cons_of_mem mem, related⟩

/-- In a pairing one item may have another partner, if the item that has this partner can do with
    the one that becomes free. -/
theorem rel_exchange {a : α} {b : β} {as : Multiset α} {bs : Multiset β}
    (paired : Multiset.Rel R (a ::ₘ as) (b ::ₘ bs))
    (exchange : ∀ a' ∈ as, ∀ b' ∈ bs, R a' b → R a b' → R a' b') : Multiset.Rel R as bs := by
  obtain ⟨b', rest, ab', later, same⟩ := Multiset.rel_cons_left.mp paired
  rcases Multiset.cons_eq_cons.mp same with ⟨-, rfl⟩ | ⟨-, others, rfl, rfl⟩
  · exact later
  · obtain ⟨a', left, a'b, last, rfl⟩ := Multiset.rel_cons_right.mp later
    exact .cons (exchange a' (Multiset.mem_cons_self _ _) b' (Multiset.mem_cons_self _ _) a'b ab')
      last

end Pairings

namespace Comparison

theorem takeFirst_some {α : Type} {test : α → Bool} {items rest : List α}
    (taken : takeFirst test items = some rest) :
    ∃ item, test item = true ∧ (items : Multiset α) = item ::ₘ rest := by
  induction items generalizing rest with
  | nil => cases taken
  | cons a items ih =>
    rw [takeFirst] at taken
    split at taken
    · next passes =>
      cases taken
      exact ⟨a, passes, rfl⟩
    · obtain ⟨others, later, rfl⟩ := Option.map_eq_some_iff.mp taken
      obtain ⟨item, passes, same⟩ := ih later
      refine ⟨item, passes, ?_⟩
      rw [← Multiset.cons_coe, same, ← Multiset.cons_coe, Multiset.cons_swap]

theorem takeFirst_of_mem {α : Type} {test : α → Bool} {items : List α} {item : α}
    (mem : item ∈ items) (passes : test item = true) :
    ∃ rest, takeFirst test items = some rest := by
  induction items with
  | nil => cases mem
  | cons a items ih =>
    rw [takeFirst]
    by_cases first : test a = true
    · exact ⟨items, by rw [if_pos first]⟩
    · rcases List.mem_cons.mp mem with rfl | later
      · exact absurd passes first
      · obtain ⟨rest, taken⟩ := ih later
        exact ⟨a :: rest, by rw [if_neg first, taken, Option.map_some]⟩

variable {c : Comparison}

/-- The items can be paired, each expected one with an item that it is deep equal to. -/
abbrev Paired (c : Comparison) (children : List Expected) (items : List Json) : Prop :=
  Multiset.Rel (fun child item => c.deepEqual child item = true) (children : Multiset Expected)
    (items : Multiset Json)

/-! ### What is taken is a pairing -/

theorem paired_of_deepEqualItems {children : List Expected} {items : List Json}
    (length : children.length = items.length) (equal : c.deepEqualItems children items = true) :
    c.Paired children items := by
  induction children generalizing items with
  | nil =>
    rw [List.eq_nil_of_length_eq_zero length.symm]
    exact .zero
  | cons child children ih =>
    rw [deepEqualItems] at equal
    split at equal
    · next rest taken =>
      obtain ⟨item, own, same⟩ := takeFirst_some taken
      have count := congrArg Multiset.card same
      rw [Multiset.card_cons, Multiset.coe_card, Multiset.coe_card, ← length,
        List.length_cons] at count
      rw [Paired, same, ← Multiset.cons_coe]
      exact .cons own (ih (Nat.succ.inj count) equal)
    · cases equal

/-- Where there is a pairing, taking the first finds one, if expected items that share a value can be
    exchanged. -/
theorem deepEqualItems_of_paired {children : List Expected} {items : List Json}
    (exchange : ∀ d ∈ children, ∀ e ∈ children, ∀ x ∈ items, ∀ y ∈ items,
      c.deepEqual d x = true → c.deepEqual e x = true → c.deepEqual d y = true →
        c.deepEqual e y = true)
    (paired : c.Paired children items) : c.deepEqualItems children items = true := by
  induction children generalizing items with
  | nil => rfl
  | cons child children ih =>
    obtain ⟨item, mem, own⟩ := Multiset.exists_mem_of_rel_of_mem paired
      (Multiset.mem_coe.mpr List.mem_cons_self)
    obtain ⟨rest, taken⟩ := takeFirst_of_mem (Multiset.mem_coe.mp mem) own
    obtain ⟨first, firstOwn, same⟩ := takeFirst_some taken
    have inside : ∀ x, x ∈ first :: rest ↔ x ∈ items := by
      intro x
      rw [← Multiset.mem_coe, ← Multiset.mem_coe, same, ← Multiset.cons_coe]
    rw [Paired, same, ← Multiset.cons_coe] at paired
    rw [deepEqualItems, taken]
    refine ih ?_ (rel_exchange paired ?_)
    · intro d hd e he x hx y hy
      exact exchange d (List.mem_cons_of_mem _ hd) e (List.mem_cons_of_mem _ he)
        x ((inside x).mp (List.mem_cons_of_mem _ hx)) y ((inside y).mp (List.mem_cons_of_mem _ hy))
    · intro other hd y hy shared own'
      exact exchange child List.mem_cons_self other
        (List.mem_cons_of_mem _ (Multiset.mem_coe.mp hd)) first
        ((inside first).mp List.mem_cons_self) y
        ((inside y).mp (List.mem_cons_of_mem _ (Multiset.mem_coe.mp hy))) firstOwn shared own'

/-! ### Objects -/

theorem lookup?_congr {α : Type} {m : KeyMatch} {members : Dict α} {a b : String}
    (agree : m.form a = m.form b) : m.lookup? members a = m.lookup? members b := by
  rw [KeyMatch.lookup?, KeyMatch.lookup?, agree]

/-- The entries of an object claim distinct keys if and only if their own keys do not agree. -/
theorem deepEqualMembers_iff {entries : List (String × Expected)} {members : Dict Json}
    {claimed : List String} :
    c.deepEqualMembers entries members claimed = true ↔
      c.keyMatch.Apart entries ∧ ∀ entry ∈ entries, ∃ found,
        c.keyMatch.lookup? members entry.1 = some found ∧ found.1 ∉ claimed ∧
          c.deepEqual entry.2 found.2 = true := by
  induction entries generalizing claimed with
  | nil => simp [deepEqualMembers, KeyMatch.Apart]
  | cons entry entries ih =>
    obtain ⟨key, child⟩ := entry
    cases there : c.keyMatch.lookup? members key with
    | none => simp [deepEqualMembers, there]
    | some found =>
      obtain ⟨actual, value⟩ := found
      -- the same key is claimed again exactly by an expected key that agrees
      have again : ∀ {other : String × Expected} {found : String × Json},
          c.keyMatch.lookup? members other.1 = some found →
            (found.1 = actual ↔ c.keyMatch.form other.1 = c.keyMatch.form key) := by
        intro other found elsewhere
        constructor
        · rintro rfl
          exact (KeyMatch.lookup?_eq_some elsewhere).2.symm.trans (KeyMatch.lookup?_eq_some there).2
        · intro agree
          rw [lookup?_congr agree, there] at elsewhere
          cases elsewhere
          rfl
      rw [deepEqualMembers, there]
      simp only [Bool.and_eq_true, Bool.not_eq_true', ih, KeyMatch.Apart, List.map_cons,
        List.nodup_cons]
      constructor
      · rintro ⟨⟨free, own⟩, apart, each⟩
        refine ⟨⟨?_, apart⟩, ?_⟩
        · intro mem
          obtain ⟨other, memOther, agree⟩ := List.mem_map.mp mem
          obtain ⟨found, elsewhere, fresh, -⟩ := each other memOther
          exact fresh (List.mem_cons.mpr (.inl ((again elsewhere).mpr agree)))
        · intro other mem
          rcases List.mem_cons.mp mem with rfl | mem
          · exact ⟨_, there, by simpa using free, own⟩
          · obtain ⟨found, elsewhere, fresh, own⟩ := each other mem
            exact ⟨found, elsewhere, fun old => fresh (List.mem_cons_of_mem _ old), own⟩
      · rintro ⟨⟨fresh, apart⟩, each⟩
        obtain ⟨found, first, free, own⟩ := each _ List.mem_cons_self
        rw [there] at first
        cases first
        refine ⟨⟨by simpa using free, own⟩, apart, ?_⟩
        intro other mem
        obtain ⟨found, elsewhere, old, own⟩ := each other (List.mem_cons_of_mem _ mem)
        refine ⟨found, elsewhere, ?_, own⟩
        intro claims
        rcases List.mem_cons.mp claims with same | claims
        · exact fresh (List.mem_map.mpr ⟨other, mem, (again elsewhere).mp same⟩)
        · exact old claims

/-- Where as many keys are claimed as there are, every key is claimed. -/
theorem claimed_of_mem {entries : List (String × Expected)} {members : Dict Json}
    (length : entries.length = members.length)
    (equal : c.deepEqualMembers entries members [] = true) {member : String × Json}
    (mem : member ∈ members) :
    ∃ entry ∈ entries, c.keyMatch.form entry.1 = c.keyMatch.form member.1 := by
  obtain ⟨apart, each⟩ := deepEqualMembers_iff.mp equal
  have within : entries.map (fun entry => c.keyMatch.form entry.1) ⊆
      members.map fun member => c.keyMatch.form member.1 := by
    intro form there
    obtain ⟨entry, memEntry, rfl⟩ := List.mem_map.mp there
    obtain ⟨found, lookup, -⟩ := each entry memEntry
    obtain ⟨memFound, agree⟩ := KeyMatch.lookup?_eq_some lookup
    exact List.mem_map.mpr ⟨found, memFound, agree⟩
  have perm := (List.subperm_of_subset apart within).perm_of_length_le (by simp [length])
  exact List.mem_map.mp (perm.mem_iff.mpr (List.mem_map_of_mem mem))

/-! ### Deep equality by the kind of what is expected -/

theorem deepEqual_text_iff (equal : c.relation = .equal) {normal : String} {j : Json} :
    c.deepEqual (.scalar (.text normal)) j = true ↔
      j.isStructured = false ∧ c.normalizer.normal j.plainText = normal := by
  simp [deepEqual, part, scalar, equal, TextRelation.holds]

theorem deepEqual_items_iff {children : List Expected} {j : Json} :
    c.deepEqual (.items children) j = true ↔ ∃ items, j.entered = .arr items ∧
      children.length = items.length ∧ c.deepEqualItems children items = true := by
  rw [deepEqual]
  split <;> simp_all

theorem deepEqual_members_iff {entries : List (String × Expected)} {j : Json} :
    c.deepEqual (.members entries) j = true ↔ ∃ members, j.entered = .obj members ∧
      entries.length = members.length ∧ c.deepEqualMembers entries members [] = true := by
  rw [deepEqual]
  split <;> simp_all

/-- Only a text is deep equal to a scalar and to something structured. -/
theorem text_of_both {scalar : ExpectedScalar} {e : Expected} (structured : e.isStructured = true)
    {j : Json} (asScalar : c.deepEqual (.scalar scalar) j = true)
    (asStructure : c.deepEqual e j = true) : ∃ text, j = .str text := by
  cases j with
  | str text => exact ⟨text, rfl⟩
  | arr items => simp [deepEqual, part, Json.isStructured] at asScalar
  | obj members => simp [deepEqual, part, Json.isStructured] at asScalar
  | _ =>
    cases e with
    | scalar s => cases structured
    | _ => simp [deepEqual, Json.entered] at asStructure

end Comparison

/-! ### What expected and actual values consist of -/

namespace Expected

/-- The values that are expected somewhere within an expected value, and the value itself. -/
inductive Part (whole : Expected) : Expected → Prop
  | self : Part whole whole
  | item {children : List Expected} {child : Expected} (up : Part whole (.items children))
      (mem : child ∈ children) : Part whole child
  | member {entries : List (String × Expected)} {entry : String × Expected}
      (up : Part whole (.members entries)) (mem : entry ∈ entries) : Part whole entry.2

/-- A value is expected somewhere within some of several. -/
def Among (children : List Expected) (e : Expected) : Prop := ∃ child ∈ children, child.Part e

theorem Among.item {children parts : List Expected} (among : Among children (.items parts)) :
    ∀ e ∈ parts, Among children e := by
  obtain ⟨child, mem, part⟩ := among
  exact fun e there => ⟨child, mem, part.item there⟩

theorem Among.member {children : List Expected} {entries : List (String × Expected)}
    (among : Among children (.members entries)) : ∀ entry ∈ entries, Among children entry.2 := by
  obtain ⟨child, mem, part⟩ := among
  exact fun entry there => ⟨child, mem, part.member there⟩

theorem wantedItems_eq_map (n : Normalizer) (parts : List Json) :
    wantedItems n parts = parts.map (wanted n) := by
  induction parts with
  | nil => rfl
  | cons part parts ih => rw [wantedItems, ih, List.map_cons]

theorem wantedMembers_eq_map (n : Normalizer) (entries : List (String × Json)) :
    wantedMembers n entries = entries.map fun entry => (entry.1, wanted n entry.2) := by
  induction entries with
  | nil => rfl
  | cons entry entries ih => rw [wantedMembers, ih, List.map_cons]

/-- Where a value is wanted, all that is expected within it are values wanted. -/
theorem Part.wanted {n : Normalizer} {j : Json} {e : Expected}
    (part : (Expected.wanted n j).Part e) : ∃ j', e = Expected.wanted n j' := by
  induction part with
  | self => exact ⟨j, rfl⟩
  | item _ mem ih =>
    obtain ⟨j', same⟩ := ih
    cases j' <;> simp only [Expected.wanted, reduceCtorEq, items.injEq] at same
    rw [same, wantedItems_eq_map] at mem
    obtain ⟨part, -, rfl⟩ := List.mem_map.mp mem
    exact ⟨part, rfl⟩
  | member _ mem ih =>
    obtain ⟨j', same⟩ := ih
    cases j' <;> simp only [Expected.wanted, reduceCtorEq, members.injEq] at same
    rw [same, wantedMembers_eq_map] at mem
    obtain ⟨entry, -, rfl⟩ := List.mem_map.mp mem
    exact ⟨entry.2, rfl⟩

/-- All scalars that are expected are texts. -/
def Textual (children : List Expected) : Prop :=
  ∀ s, Among children (.scalar s) → ∃ normal, s = .text normal

theorem textual_wantedItems (n : Normalizer) (parts : List Json) :
    Textual (wantedItems n parts) := by
  rintro s ⟨child, mem, part⟩
  rw [wantedItems_eq_map] at mem
  obtain ⟨j, -, rfl⟩ := List.mem_map.mp mem
  obtain ⟨j', same⟩ := part.wanted
  cases j' <;> simp [Expected.wanted] at same <;> exact ⟨_, same⟩

end Expected

namespace Json

/-- The values that are met within a value when texts are read for structure, and the value
    itself. -/
inductive Shows (whole : Json) : Json → Prop
  | self : Shows whole whole
  | item {j item : Json} {items : List Json} (up : Shows whole j) (entered : j.entered = .arr items)
      (mem : item ∈ items) : Shows whole item
  | member {j : Json} {members : Dict Json} {member : String × Json} (up : Shows whole j)
      (entered : j.entered = .obj members) (mem : member ∈ members) : Shows whole member.2

/-- A value is met within some of several. -/
def Among (items : List Json) (j : Json) : Prop := ∃ item ∈ items, item.Shows j

theorem Among.item {items parts : List Json} {j : Json} (among : Among items j)
    (entered : j.entered = .arr parts) : ∀ part ∈ parts, Among items part := by
  obtain ⟨item, mem, shows⟩ := among
  exact fun part there => ⟨item, mem, shows.item entered there⟩

theorem Among.member {items : List Json} {members : Dict Json} {j : Json} (among : Among items j)
    (entered : j.entered = .obj members) : ∀ member ∈ members, Among items member.2 := by
  obtain ⟨item, mem, shows⟩ := among
  exact fun member there => ⟨item, mem, shows.member entered there⟩

end Json

namespace Comparison

variable {c : Comparison} {children : List Expected} {items : List Json}

/-- No text among the actual values is deep equal to an expected scalar, as it is, and to an
    expected array or object, as what it stands for. -/
def Unambiguous (c : Comparison) (children : List Expected) (items : List Json) : Prop :=
  ∀ text, Json.Among items (.str text) → ∀ scalar, Expected.Among children (.scalar scalar) →
    ∀ e, Expected.Among children e → e.isStructured = true →
      ¬ (c.deepEqual (.scalar scalar) (.str text) = true ∧ c.deepEqual e (.str text) = true)

/-- A value stands in for every expected one with which it shares an actual value. -/
def Exchangeable (c : Comparison) (children : List Expected) (items : List Json) (e : Expected) :
    Prop :=
  ∀ d, Expected.Among children d → ∀ x, Json.Among items x → ∀ y, Json.Among items y →
    c.deepEqual d x = true → c.deepEqual e x = true → c.deepEqual d y = true →
      c.deepEqual e y = true

section Exchange

variable (clear : c.Unambiguous children items)
include clear

theorem not_both {scalar : ExpectedScalar} (amongScalar : Expected.Among children (.scalar scalar))
    {e : Expected} (among : Expected.Among children e) (structured : e.isStructured = true)
    {x : Json} (shown : Json.Among items x) (asScalar : c.deepEqual (.scalar scalar) x = true)
    (asStructure : c.deepEqual e x = true) : False := by
  obtain ⟨text, rfl⟩ := text_of_both structured asScalar asStructure
  exact clear text shown scalar amongScalar e among structured ⟨asScalar, asStructure⟩

theorem exchangeable_text (equal : c.relation = .equal) (textual : Expected.Textual children)
    {s : ExpectedScalar} (among : Expected.Among children (.scalar s)) :
    c.Exchangeable children items (.scalar s) := by
  intro d amongD x shown y _ dx ex dy
  cases d with
  | scalar s' =>
    obtain ⟨normal, rfl⟩ := textual s among
    obtain ⟨normal', rfl⟩ := textual s' amongD
    have same : normal' = normal :=
      ((deepEqual_text_iff equal).mp dx).2.symm.trans ((deepEqual_text_iff equal).mp ex).2
    exact same ▸ dy
  | items _ => exact (not_both clear among amongD rfl shown ex dx).elim
  | members _ => exact (not_both clear among amongD rfl shown ex dx).elim

theorem exchangeable_items {parts : List Expected}
    (among : Expected.Among children (.items parts))
    (each : ∀ e ∈ parts, c.Exchangeable children items e) :
    c.Exchangeable children items (.items parts) := by
  intro d amongD x shownX y shownY dx ex dy
  cases d with
  | scalar s => exact (not_both clear amongD among rfl shownX dx ex).elim
  | members entries =>
    obtain ⟨_, asObject, -⟩ := deepEqual_members_iff.mp dx
    obtain ⟨_, asArray, -⟩ := deepEqual_items_iff.mp ex
    rw [asArray] at asObject
    cases asObject
  | items others =>
    obtain ⟨xs, enteredX, lengthE, ex⟩ := deepEqual_items_iff.mp ex
    obtain ⟨xs', enteredX', lengthD, dx⟩ := deepEqual_items_iff.mp dx
    obtain ⟨ys, enteredY, lengthY, dy⟩ := deepEqual_items_iff.mp dy
    rw [enteredX] at enteredX'
    cases enteredX'
    have shownXs := shownX.item enteredX
    have shownYs := shownY.item enteredY
    -- from the one to x, back from x to the other, and on to y
    have across := rel_comp
      (rel_comp (paired_of_deepEqualItems lengthE ex)
        (Multiset.rel_flip.mpr (paired_of_deepEqualItems lengthD dx)))
      (paired_of_deepEqualItems lengthY dy)
    have paired : c.Paired parts ys := by
      refine across.mono ?_
      rintro e memE y' memY ⟨d', memD, ⟨x', memX, ex', dx'⟩, dy'⟩
      exact each e memE d' (amongD.item d' memD) x' (shownXs x' memX) y' (shownYs y' memY)
        dx' ex' dy'
    refine deepEqual_items_iff.mpr
      ⟨ys, enteredY, lengthE.trans (lengthD.symm.trans lengthY), deepEqualItems_of_paired ?_ paired⟩
    intro d' memD e memE x' memX y' memY
    exact each e memE d' (among.item d' memD) x' (shownYs x' memX) y' (shownYs y' memY)

-- the key that finds a member of x is agreed on by both, so both find the same member of y
theorem exchangeable_members {entries : List (String × Expected)}
    (among : Expected.Among children (.members entries))
    (each : ∀ entry ∈ entries, c.Exchangeable children items entry.2) :
    c.Exchangeable children items (.members entries) := by
  intro d amongD x shownX y shownY dx ex dy
  cases d with
  | scalar s => exact (not_both clear amongD among rfl shownX dx ex).elim
  | items others =>
    obtain ⟨_, asArray, -⟩ := deepEqual_items_iff.mp dx
    obtain ⟨_, asObject, -⟩ := deepEqual_members_iff.mp ex
    rw [asArray] at asObject
    cases asObject
  | members others =>
    obtain ⟨xs, enteredX, lengthE, ex⟩ := deepEqual_members_iff.mp ex
    obtain ⟨xs', enteredX', lengthD, dx⟩ := deepEqual_members_iff.mp dx
    obtain ⟨ys, enteredY, lengthY, dy⟩ := deepEqual_members_iff.mp dy
    rw [enteredX] at enteredX'
    cases enteredX'
    obtain ⟨apart, finds⟩ := deepEqualMembers_iff.mp ex
    refine deepEqual_members_iff.mpr ⟨ys, enteredY, lengthE.trans (lengthD.symm.trans lengthY),
      deepEqualMembers_iff.mpr ⟨apart, ?_⟩⟩
    intro entry mem
    obtain ⟨foundX, lookupX, -, entryX⟩ := finds entry mem
    obtain ⟨memX, agreeX⟩ := KeyMatch.lookup?_eq_some lookupX
    obtain ⟨other, memD, agree⟩ := claimed_of_mem lengthD dx memX
    have agreed := agree.trans agreeX
    obtain ⟨foundX', lookupX', -, otherX⟩ := (deepEqualMembers_iff.mp dx).2 other memD
    rw [lookup?_congr agreed, lookupX] at lookupX'
    cases lookupX'
    obtain ⟨foundY, lookupY, -, otherY⟩ := (deepEqualMembers_iff.mp dy).2 other memD
    have memY := (KeyMatch.lookup?_eq_some lookupY).1
    rw [lookup?_congr agreed] at lookupY
    exact ⟨foundY, lookupY, List.not_mem_nil, each entry mem other.2 (amongD.member other memD)
      foundX.2 (shownX.member enteredX foundX memX) foundY.2 (shownY.member enteredY foundY memY)
      otherX entryX otherY⟩

end Exchange

mutual

theorem exchangeable (clear : c.Unambiguous children items) (equal : c.relation = .equal)
    (textual : Expected.Textual children) :
    ∀ e : Expected, Expected.Among children e → c.Exchangeable children items e
  | .scalar _, among => exchangeable_text clear equal textual among
  | .items parts, among =>
      exchangeable_items clear among (exchangeable_each clear equal textual parts among.item)
  | .members entries, among =>
      exchangeable_members clear among
        (exchangeable_entries clear equal textual entries among.member)

theorem exchangeable_each (clear : c.Unambiguous children items) (equal : c.relation = .equal)
    (textual : Expected.Textual children) :
    ∀ parts : List Expected, (∀ e ∈ parts, Expected.Among children e) →
      ∀ e ∈ parts, c.Exchangeable children items e
  | [], _, _, mem => nomatch mem
  | first :: parts, among, e, mem => by
      rcases List.mem_cons.mp mem with same | mem
      · exact same ▸ exchangeable clear equal textual first (among first List.mem_cons_self)
      · exact exchangeable_each clear equal textual parts
          (fun d there => among d (List.mem_cons_of_mem _ there)) e mem

theorem exchangeable_entries (clear : c.Unambiguous children items) (equal : c.relation = .equal)
    (textual : Expected.Textual children) :
    ∀ entries : List (String × Expected), (∀ entry ∈ entries, Expected.Among children entry.2) →
      ∀ entry ∈ entries, c.Exchangeable children items entry.2
  | [], _, _, mem => nomatch mem
  | (key, child) :: entries, among, entry, mem => by
      rcases List.mem_cons.mp mem with same | mem
      · exact same ▸ exchangeable clear equal textual child
          (among (key, child) List.mem_cons_self)
      · exact exchangeable_entries clear equal textual entries
          (fun d there => among d (List.mem_cons_of_mem _ there)) entry mem

end

/-! ### Arrays as multisets -/

variable {parts : List Json}

theorem deepEqual_items_of_paired (clear : c.Unambiguous children items)
    (equal : c.relation = .equal) (textual : Expected.Textual children)
    (paired : c.Paired children items) : c.deepEqual (.items children) (.arr items) = true := by
  have length : children.length = items.length := by
    simpa using Multiset.card_eq_card_of_rel paired
  refine deepEqual_items_iff.mpr ⟨items, rfl, length, deepEqualItems_of_paired ?_ paired⟩
  have each := exchangeable_each clear equal textual children fun e mem => ⟨e, mem, .self⟩
  intro d memD e memE x memX y memY
  exact each e memE d ⟨d, memD, .self⟩ x ⟨x, memX, .self⟩ y ⟨y, memY, .self⟩

theorem paired_of_deepEqual_items (equal : c.deepEqual (.items children) (.arr items) = true) :
    children.length = items.length ∧ c.Paired children items := by
  obtain ⟨_, entered, length, equal⟩ := deepEqual_items_iff.mp equal
  cases entered
  exact ⟨length, paired_of_deepEqualItems length equal⟩

/-- An array that is deep equal to the expected one is as long, and its items can be paired with the
    expected ones.  Where no text is ambiguous the converse holds, and the order of the items does
    not count on either side. -/
theorem deepEqual_arrays (equal : c.relation = .equal)
    (compiled : Expected.compileItems .deepEquals c.normalizer parts = .ok children)
    (items : List Json) :
    (c.deepEqual (.items children) (.arr items) = true →
        children.length = items.length ∧ c.Paired children items) ∧
      (c.Unambiguous children items →
        (c.deepEqual (.items children) (.arr items) = true ↔
          children.length = items.length ∧ c.Paired children items) ∧
        ∀ children' items', children'.Perm children → items'.Perm items →
          c.deepEqual (.items children') (.arr items') =
            c.deepEqual (.items children) (.arr items)) := by
  have textual : Expected.Textual children := by
    rw [Expected.compileItems_deepEquals] at compiled
    cases compiled
    exact Expected.textual_wantedItems c.normalizer parts
  refine ⟨paired_of_deepEqual_items, fun clear => ⟨⟨paired_of_deepEqual_items, ?_⟩, ?_⟩⟩
  · rintro ⟨-, paired⟩
    exact deepEqual_items_of_paired clear equal textual paired
  · intro children' items' permC permI
    -- what occurs on either side does not depend on the order
    have expected : ∀ {e : Expected}, Expected.Among children' e → Expected.Among children e := by
      rintro e ⟨child, mem, part⟩
      exact ⟨child, permC.mem_iff.mp mem, part⟩
    have actual : ∀ {j : Json}, Json.Among items' j → Json.Among items j := by
      rintro j ⟨item, mem, shows⟩
      exact ⟨item, permI.mem_iff.mp mem, shows⟩
    have clear' : c.Unambiguous children' items' := by
      intro text shown scalar amongScalar e among
      exact clear text (actual shown) scalar (expected amongScalar) e (expected among)
    have same : c.Paired children' items' ↔ c.Paired children items := by
      rw [Paired, Paired, Multiset.coe_eq_coe.mpr permC, Multiset.coe_eq_coe.mpr permI]
    rw [Bool.eq_iff_iff]
    constructor
    · intro holds
      exact deepEqual_items_of_paired clear equal textual
        (same.mp (paired_of_deepEqual_items holds).2)
    · intro holds
      exact deepEqual_items_of_paired clear' equal (fun s among => textual s (expected among))
        (same.mpr (paired_of_deepEqual_items holds).2)

/-- Deep equality regardless of case, with nothing excluded. -/
def plainly : Comparison := ⟨.equal, ⟨false, none⟩, .folded⟩

/-- An array and a text. -/
def listAndText : List Expected := [.items [.scalar (.text "1")], .scalar (.text "x")]

/-- The text, and another that spells the array. -/
def textAndSpelling : List Json := [.str "x", .str "[1]"]

theorem spelling_unambiguous : plainly.Unambiguous listAndText textAndSpelling := by
  have expected : ∀ e, Expected.Among listAndText e → e = .items [.scalar (.text "1")] ∨
      e = .scalar (.text "1") ∨ e = .scalar (.text "x") := by
    rintro e ⟨child, mem, part⟩
    induction part with
    | self =>
      simp only [listAndText, List.mem_cons, List.not_mem_nil, or_false] at mem
      rcases mem with rfl | rfl
      · exact .inl rfl
      · exact .inr (.inr rfl)
    | item _ there ih => rcases ih with same | same | same <;> simp_all
    | member _ _ ih => rcases ih with same | same | same <;> cases same
  have bare : Json.entered (.str "x") = .str "x" := by rfl
  have spelled : Json.entered (.str "[1]") = .arr [.num (.int 1)] := by rfl
  have actual : ∀ j, Json.Among textAndSpelling j →
      j = .str "x" ∨ j = .str "[1]" ∨ j = .num (.int 1) := by
    rintro j ⟨item, mem, shows⟩
    induction shows with
    | self =>
      simp only [textAndSpelling, List.mem_cons, List.not_mem_nil, or_false] at mem
      rcases mem with rfl | rfl
      · exact .inl rfl
      · exact .inr (.inl rfl)
    | item _ entered there ih =>
      rcases ih with rfl | rfl | rfl
      · rw [bare] at entered
        cases entered
      · rw [spelled] at entered
        cases entered
        exact .inr (.inr (List.mem_singleton.mp there))
      · cases entered
    | member _ entered there ih =>
      rcases ih with rfl | rfl | rfl
      · rw [bare] at entered
        cases entered
      · rw [spelled] at entered
        cases entered
      · cases entered
  rintro text shown scalar among e amongE structured ⟨asScalar, asStructure⟩
  have textOnly : plainly.deepEqual (.items [.scalar (.text "1")]) (.str "x") = false := by
    decide +kernel
  have neither : plainly.deepEqual (.scalar (.text "1")) (.str "[1]") = false ∧
      plainly.deepEqual (.scalar (.text "x")) (.str "[1]") = false := by decide +kernel
  rcases actual _ shown with same | same | same <;> cases same
  · rcases expected e amongE with rfl | rfl | rfl
    · simp [textOnly] at asStructure
    · cases structured
    · cases structured
  · rcases expected _ among with same | same | same <;> cases same
    · simp [neither.1] at asScalar
    · simp [neither.2] at asScalar

/-- In either order the array takes its spelling, and the text itself. -/
theorem spelling_is_paired :
    plainly.Unambiguous listAndText textAndSpelling ∧ plainly.Paired listAndText textAndSpelling ∧
      plainly.deepEqual (.items listAndText) (.arr textAndSpelling.reverse) =
        plainly.deepEqual (.items listAndText) (.arr textAndSpelling) := by
  have compiled : Expected.compileItems .deepEquals plainly.normalizer
      [.arr [.num (.int 1)], .str "X"] = .ok listAndText := by rfl
  obtain ⟨-, clear⟩ := deepEqual_arrays rfl compiled textAndSpelling
  obtain ⟨asPaired, ordered⟩ := clear spelling_unambiguous
  exact ⟨spelling_unambiguous, (asPaired.mp (by decide +kernel)).2,
    ordered _ _ (List.Perm.refl _) (List.reverse_perm _)⟩

/-- An array, and a text that spells it. -/
def crossed : List Json := [.arr [.num (.int 1)], .str "[1]"]

/-- The array takes the spelling that the expected text needs; in the other order each takes its
    own. -/
theorem crossed_order_counts :
    ∃ children, Expected.compileItems .deepEquals plainly.normalizer crossed = .ok children ∧
      plainly.deepEqual (.items children) (.arr crossed) = true ∧
      plainly.deepEqual (.items children) (.arr crossed.reverse) = false ∧
      children.length = crossed.reverse.length ∧ plainly.Paired children crossed.reverse := by
  have inOrder : plainly.deepEqual (.items [.items [.scalar (.text "1")], .scalar (.text "[1]")])
      (.arr crossed) = true := by decide +kernel
  refine ⟨_, by rfl, inOrder, by decide +kernel, rfl, ?_⟩
  rw [Paired, Multiset.coe_eq_coe.mpr (List.reverse_perm crossed)]
  exact (paired_of_deepEqual_items inOrder).2

end Comparison

end VirtualService
