/-
  VirtualService/Proofs/Navigation.lean
  =====================================
  **Resolving a path of keys, and testing for what is at its end.**

  There are two ways along a path of keys.  To resolve it, one goes into the first
  item of an array through which the rest of the path leads, and reads a text at the
  beginning only.  To test for what is there, one goes into every item and reads
  texts wherever they are met.  What is resolved is one of the places at which the
  path ends (`EndsAt.of_resolved`).  Where no text is met on the way that could be
  read, a path that ends at a value also resolves to one
  (`EndsAt.exists_resolved`), though it need not be the same.
-/
import VirtualService.Proofs.Presence
import VirtualService.Proofs.Recognition

namespace VirtualService

/-! ### Following a path -/

/-- A text that can be read as JSON or XML. -/
def Json.isReadable : Json → Bool
  | .str text => (interpret text).isSome
  | _ => false

namespace EndsAt

variable {m : KeyMatch} {key : String} {path : List String}

/-- A path leads from an array to wherever it leads from a value that is left when the array is
    opened. -/
theorem of_opened {j part : Json} {place : Option Json} (mem : part ∈ j.opened)
    (leads : EndsAt m (key :: path) (some part) place) : EndsAt m (key :: path) (some j) place := by
  induction j using Json.induction with
  | scalar j isScalar =>
    rw [Json.opened_scalar isScalar, List.mem_singleton] at mem
    exact mem ▸ leads
  | arr items ih =>
    obtain ⟨item, memItem, within⟩ := Json.mem_opened_arr.mp mem
    exact .item memItem (ih item memItem within)
  | obj members _ =>
    rw [Json.opened, List.mem_singleton] at mem
    exact mem ▸ leads

theorem of_navigated {j found : Json} (ends : Json.navigate m path j = some found) :
    EndsAt m path (some j) (some found) := by
  induction path generalizing j with
  | nil =>
    cases ends
    exact .here _
  | cons key path ih =>
    obtain ⟨part, mem, through⟩ := List.exists_of_findSome?_eq_some ends
    cases part with
    | obj members =>
      obtain ⟨value, there, further⟩ := Option.bind_eq_some_iff.mp through
      apply of_opened mem
      apply EndsAt.member
      rw [there]
      exact ih further
    | _ => cases through

/-- What a path is resolved to is one of the places at which it ends. -/
theorem of_resolved {raw found : Json} (ends : resolvePath m raw path = some found) :
    EndsAt m path (some raw) (some found) := by
  cases path with
  | nil =>
    cases ends
    exact .here _
  | cons key path =>
    cases raw with
    | str text =>
      obtain ⟨j, reading, further⟩ := Option.bind_eq_some_iff.mp ends
      exact .read reading (of_navigated further)
    | _ => exact of_navigated ends

/-- Where no text can be read, a path that ends at a value leads through an object that is left when
    arrays are opened. -/
theorem exists_opened {j found : Json} (unread : ∀ part ∈ j.scalars, part.isReadable = false)
    (leads : EndsAt m (key :: path) (some j) (some found)) :
    ∃ members, Json.obj members ∈ j.opened ∧
      ∃ value, m.find? members key = some value ∧ EndsAt m path (some value) (some found) := by
  induction j using Json.induction with
  | scalar j isScalar =>
    have closed : j.Closed := by
      rw [Json.scalars_scalar isScalar] at unread
      have own := unread j (List.mem_singleton_self j)
      cases j with
      | arr items => cases isScalar
      | obj members => cases isScalar
      | str text => exact Option.isNone_iff_eq_none.mp (Option.isSome_eq_false_iff.mp own)
      | _ => trivial
    cases (closed_iff closed).mp leads
  | arr items ih =>
    cases items with
    | nil => cases (closed_iff (j := .arr []) rfl).mp leads
    | cons first rest =>
      obtain ⟨item, mem, inner⟩ := (arr_iff (List.cons_ne_nil first rest)).mp leads
      have unreadItem : ∀ part ∈ item.scalars, part.isReadable = false := by
        intro part within
        exact unread part (Json.mem_scalars_arr.mpr ⟨item, mem, within⟩)
      obtain ⟨members, left, further⟩ := ih item mem unreadItem inner
      exact ⟨members, Json.mem_opened_arr.mpr ⟨item, mem, left⟩, further⟩
  | obj members _ =>
    have inner := obj_iff.mp leads
    cases there : m.find? members key with
    | none =>
      rw [there] at inner
      cases none_iff.mp inner
    | some value =>
      rw [there] at inner
      exact ⟨members, by simp [Json.opened], value, there, inner⟩

theorem scalars_of_opened {j part : Json} {members : Dict Json} (left : Json.obj members ∈ j.opened)
    (within : part ∈ (Json.obj members).scalars) : part ∈ j.scalars := by
  induction j using Json.induction with
  | scalar j isScalar =>
    rw [Json.opened_scalar isScalar, List.mem_singleton] at left
    rw [← left] at isScalar
    cases isScalar
  | arr items ih =>
    obtain ⟨item, mem, leftItem⟩ := Json.mem_opened_arr.mp left
    exact Json.mem_scalars_arr.mpr ⟨item, mem, ih item mem leftItem⟩
  | obj own _ =>
    rw [Json.opened, List.mem_singleton] at left
    exact left ▸ within

theorem exists_navigated {j found : Json} (unread : ∀ part ∈ j.scalars, part.isReadable = false)
    (leads : EndsAt m path (some j) (some found)) : (Json.navigate m path j).isSome = true := by
  induction path generalizing j with
  | nil => rfl
  | cons key path ih =>
    obtain ⟨members, left, value, there, further⟩ := exists_opened unread leads
    have unreadValue : ∀ part ∈ value.scalars, part.isReadable = false := by
      intro part within
      obtain ⟨member, found, rfl⟩ := Option.map_eq_some_iff.mp there
      have mem := (KeyMatch.lookup?_eq_some found).1
      apply unread part
      exact scalars_of_opened left (Json.mem_scalars_obj.mpr ⟨member, mem, within⟩)
    apply List.findSome?_isSome_iff.mpr
    refine ⟨.obj members, left, ?_⟩
    simp only [there, Option.bind_some]
    exact ih unreadValue further

/-- Where no text strictly within a value can be read, a path that ends at a value is resolved. -/
theorem exists_resolved {raw found : Json} (unread : ∀ part ∈ raw.entered.scalars, part.isReadable = false)
    (leads : EndsAt m path (some raw) (some found)) : (resolvePath m raw path).isSome = true := by
  cases path with
  | nil => rfl
  | cons key path =>
    cases raw with
    | str text =>
      cases reading : interpret text with
      | none => cases (closed_iff (j := .str text) reading).mp leads
      | some j =>
        rw [Json.entered, reading, Option.getD_some] at unread
        have inner := (str_iff reading).mp leads
        rw [resolvePath, reading, Option.bind_some]
        · exact exists_navigated unread inner
        · simp
    | _ => exact exists_navigated unread leads

/-- A path leads from what a text stands for to where it leads from the text. -/
theorem entered_iff {j : Json} {place : Option Json} :
    EndsAt m (key :: path) (some j.entered) place ↔ EndsAt m (key :: path) (some j) place := by
  cases j with
  | str text =>
    cases reading : interpret text with
    | none => simp [Json.entered, reading]
    | some j => simp [Json.entered, reading, str_iff reading]
  | _ => exact Iff.rfl

end EndsAt

/-! ### The leaf that asks for what is there -/

theorem Comparison.isPresent_some {j : Json} : isPresent (some j) = true ↔ j ≠ .str "" := by
  cases j <;> simp [isPresent]

namespace CompiledLeaf

variable {compiled : CompiledOptions} {request : Request} {name : String} {raw : Json}

/-- Without a selector the path starts from the value of the field. -/
theorem reaches_iff (unselected : compiled.selector = none)
    (field : compiled.keyMatch.find? request name = some raw) {path : List String}
    {place : Option Json} :
    compiled.Reaches request [] name path place ↔
      EndsAt compiled.keyMatch path (some raw) place := by
  have options : (asking true name path compiled).options = compiled := rfl
  rw [CompiledOptions.Reaches, actual, options, field, unselected]
  cases raw with
  | str text =>
    cases path with
    | nil => rfl
    | cons key path => exact EndsAt.entered_iff (j := .str text)
  | _ => rfl

/-- A path that is resolved in a field to anything but an empty text is there for the leaf that asks
    for its end.  If it is there for the leaf, and no text strictly within the field can be read, the
    path is resolved. -/
theorem resolution_agrees {o : PredicateOptions} {compiled : CompiledOptions}
    (ok : o.compile = .ok compiled) (noJsonPath : o.jsonPath = none) (noXPath : o.xpath = none)
    {request : Request} {name : String} {raw : Json}
    (field : o.keyMatch.find? request name = some raw) (path : List String) :
    ∃ leaf, CompiledLeaf.compile .presence [(name, (Json.bool true).under path)] o = .ok leaf ∧
      (∀ found, resolvePath o.keyMatch raw path = some found → found ≠ .str "" →
        (leaf.evaluate request []).1 = true) ∧
      ((leaf.evaluate request []).1 = true →
        (∀ part ∈ raw.entered.scalars, part.isReadable = false) →
          (resolvePath o.keyMatch raw path).isSome = true) := by
  refine ⟨_, compile_asking ok true name path, ?_⟩
  obtain ⟨excluded, selector, -, selected, rfl⟩ := PredicateOptions.compile_eq_ok.mp ok
  rw [PredicateOptions.selector_none noJsonPath noXPath] at selected
  cases selected
  rw [evaluate_asking]
  have unselected : CompiledOptions.selector ⟨o.keyMatch, ⟨o.caseSensitive, excluded⟩, none⟩ = none :=
    rfl
  simp only [reaches_iff unselected field]
  constructor
  · intro found resolved some_text
    exact ⟨some found, EndsAt.of_resolved resolved, Comparison.isPresent_some.mpr some_text⟩
  · rintro ⟨place, leads, there⟩ unread
    cases place with
    | none => cases there
    | some found => exact EndsAt.exists_resolved unread leads

/-- A text that stands for an array with a text in it and an object. -/
def textAndObject : Json := .str "\x7b\"a\":[\"x\",\x7b\"B\":[1]\x7d]\x7d"

theorem there_and_resolved :
    ∃ leaf, CompiledLeaf.compile .presence [("BODY", (Json.bool true).under ["A", "b"])] .default =
        .ok leaf ∧
      (leaf.evaluate [("body", textAndObject)] []).1 = true ∧
      (∀ part ∈ textAndObject.entered.scalars, part.isReadable = false) ∧
      (resolvePath .folded textAndObject ["A", "b"]).isSome = true := by
  obtain ⟨compiled, ok⟩ : ∃ compiled, PredicateOptions.default.compile = .ok compiled :=
    ⟨_, by rfl⟩
  have field : KeyMatch.folded.find? [("body", textAndObject)] "BODY" = some textAndObject := by
    have agree : lowered "body" = lowered "BODY" := by decide +kernel
    simp [KeyMatch.find?, KeyMatch.lookup?, KeyMatch.form, agree]
  obtain ⟨leaf, compiles, there, resolved⟩ := resolution_agrees ok rfl rfl field ["A", "b"]
  have ends : Comparison.isPresent (resolvePath .folded textAndObject ["A", "b"]) = true := by
    decide +kernel
  have unread : ∀ part ∈ textAndObject.entered.scalars, part.isReadable = false := by
    decide +kernel
  cases found : resolvePath .folded textAndObject ["A", "b"] with
  | none => simp [found, Comparison.isPresent] at ends
  | some j =>
    rw [found] at ends
    have holds := there j found (Comparison.isPresent_some.mp ends)
    refine ⟨leaf, compiles, holds, unread, ?_⟩
    rw [← found]
    exact resolved holds unread

end CompiledLeaf

end VirtualService
