/-
  VirtualService/Proofs/Presence.lean
  ===================================
  **Whether something is there, or is missing.**

  A path of keys leads into a value, and where it meets an array it leads into each
  item: it ends at as many places as there are ways to go (`EndsAt`), of which there
  is at least one.  The test that something is there and the test that it is missing
  both look for one place that is as they want it (`present_asking`).  So one of the
  two always holds, and they exclude each other just where all places agree
  (`CompiledLeaf.presence_exclusive_iff`); of an array with a key in one item and not
  in another, both hold.
-/
import VirtualService.Predicate.Compiled
import VirtualService.Proofs.Decoding
import VirtualService.Proofs.Weight

namespace VirtualService

/-! ### Paths into values -/

/-- A path of keys leads from a value, which may be absent, to a place at its end.  Of an array it
    goes into each item on its own, and a text is read; from where there is nothing to enter it leads
    to nothing. -/
inductive EndsAt (m : KeyMatch) : List String → Option Json → Option Json → Prop where
  | here (place : Option Json) : EndsAt m [] place place
  | absent (key : String) (path : List String) : EndsAt m (key :: path) none none
  | member {key : String} {path : List String} {members : Dict Json} {place : Option Json} :
      EndsAt m path (m.find? members key) place → EndsAt m (key :: path) (some (.obj members)) place
  | item {key : String} {path : List String} {items : List Json} {item : Json}
      {place : Option Json} : item ∈ items → EndsAt m (key :: path) (some item) place →
      EndsAt m (key :: path) (some (.arr items)) place
  | read {key : String} {path : List String} {text : String} {j : Json} {place : Option Json} :
      interpret text = some j → EndsAt m (key :: path) (some j) place →
      EndsAt m (key :: path) (some (.str text)) place
  | closed {j : Json} (key : String) (path : List String) : j.Closed →
      EndsAt m (key :: path) (some j) none

namespace EndsAt

variable {m : KeyMatch} {key : String} {path : List String} {place : Option Json}

theorem nil_iff {start : Option Json} : EndsAt m [] start place ↔ place = start := by
  constructor
  · rintro ⟨⟩
    rfl
  · rintro rfl
    exact here place

theorem none_iff : EndsAt m path none place ↔ place = none := by
  cases path with
  | nil => exact nil_iff
  | cons key path =>
    constructor
    · rintro ⟨⟩
      rfl
    · rintro rfl
      exact absent key path

theorem obj_iff {members : Dict Json} :
    EndsAt m (key :: path) (some (.obj members)) place ↔
      EndsAt m path (m.find? members key) place := by
  constructor
  · intro leads
    cases leads with
    | member inner => exact inner
    | closed _ _ closed => exact closed.elim
  · exact member

theorem arr_iff {items : List Json} (some_item : items ≠ []) :
    EndsAt m (key :: path) (some (.arr items)) place ↔
      ∃ item ∈ items, EndsAt m (key :: path) (some item) place := by
  constructor
  · intro leads
    cases leads with
    | item mem inner => exact ⟨_, mem, inner⟩
    | closed _ _ closed => exact absurd closed some_item
  · rintro ⟨item, mem, inner⟩
    exact .item mem inner

theorem str_iff {text : String} {j : Json} (reading : interpret text = some j) :
    EndsAt m (key :: path) (some (.str text)) place ↔ EndsAt m (key :: path) (some j) place := by
  constructor
  · intro leads
    cases leads with
    | read same inner =>
      rw [reading] at same
      cases same
      exact inner
    | closed _ _ closed =>
      rw [show interpret text = none from closed] at reading
      cases reading
  · exact read reading

theorem closed_iff {j : Json} (nothing : j.Closed) :
    EndsAt m (key :: path) (some j) place ↔ place = none := by
  constructor
  · intro leads
    cases leads with
    | member _ => exact nothing.elim
    | item mem _ =>
      rw [show _ = [] from nothing] at mem
      cases mem
    | read same _ =>
      rw [show interpret _ = none from nothing] at same
      cases same
    | closed _ _ _ => rfl
  · rintro rfl
    exact closed key path nothing

/-- A path leads into a value by each object that the value shows, and to nothing where the search
    for objects ends without one. -/
theorem cons_iff {j : Json} :
    EndsAt m (key :: path) (some j) place ↔
      ∃ view ∈ j.views, EndsAt m path (view.bind fun members => m.find? members key) place := by
  induction j using Json.searching with
  | obj members =>
    rw [obj_iff, Json.views_obj]
    simp
  | arr items some_item ih =>
    rw [arr_iff some_item]
    constructor
    · rintro ⟨item, mem, inner⟩
      obtain ⟨view, seen, leads⟩ := (ih item mem).mp inner
      exact ⟨view, (Json.mem_views_items some_item).mpr ⟨item, mem, seen⟩, leads⟩
    · rintro ⟨view, seen, leads⟩
      obtain ⟨item, mem, seen⟩ := (Json.mem_views_items some_item).mp seen
      exact ⟨item, mem, (ih item mem).mpr ⟨view, seen, leads⟩⟩
  | read text j reading ih => rw [str_iff reading, ih, Json.views_text reading]
  | closed j closed =>
    rw [closed_iff closed, closed.views]
    simp [none_iff]

/-- Every path ends somewhere. -/
theorem exists_place (m : KeyMatch) (path : List String) (start : Option Json) :
    ∃ place, EndsAt m path start place := by
  induction path generalizing start with
  | nil => exact ⟨start, here start⟩
  | cons key path ih =>
    cases start with
    | none => exact ⟨none, absent key path⟩
    | some j =>
      obtain ⟨view, seen⟩ := List.exists_mem_of_ne_nil _ (Json.views_ne_nil j)
      obtain ⟨place, leads⟩ := ih (view.bind fun members => m.find? members key)
      exact ⟨place, cons_iff.mpr ⟨view, seen, leads⟩⟩

end EndsAt

/-! ### Tests at the end of a path -/

/-- A value under a path of keys. -/
def Json.under (j : Json) : List String → Json
  | [] => j
  | key :: path => .obj [(key, under j path)]

namespace Expected

/-- The test, at the end of a path, for what is there or for what is missing. -/
def asking (flag : Bool) : List String → Expected
  | [] => .scalar (.presence flag)
  | key :: path => .members [(key, asking flag path)]

theorem compile_under (n : Normalizer) (flag : Bool) (path : List String) :
    compile .presence n ((Json.bool flag).under path) = .ok (asking flag path) := by
  induction path with
  | nil => rw [Json.under, compile, ofScalar, asking]
  | cons key path ih =>
    rw [Json.under, compile, compileMembers, ih, Except.ok_bind, compileMembers, Except.ok_bind,
      asking]
    rfl

theorem asking_isStructured (path : List String) :
    (asking true path).isStructured = (asking false path).isStructured := by
  cases path <;> rfl

end Expected

namespace Comparison

theorem present_members_some {m : KeyMatch} {key : String} {e : Expected} {j : Json} :
    present m (.members [(key, e)]) (some j) = true ↔
      ∃ view ∈ j.views, present m e (view.bind fun members => m.find? members key) = true := by
  rw [present, List.any_eq_true]
  refine exists_congr fun view => and_congr_right fun _ => ?_
  cases view with
  | none => simp [absentMembers]
  | some members => simp [presentMembers]

/-- The test holds if one of the places that the path leads to is as it asks for. -/
theorem present_asking {m : KeyMatch} {flag : Bool} {path : List String} {start : Option Json} :
    present m (.asking flag path) start = true ↔
      ∃ place, EndsAt m path start place ∧ isPresent place = flag := by
  induction path generalizing start with
  | nil =>
    rw [Expected.asking, present, beq_iff_eq]
    constructor
    · intro same
      exact ⟨start, .here start, same.symm⟩
    · rintro ⟨place, leads, same⟩
      rw [← same, EndsAt.nil_iff.mp leads]
  | cons key path ih =>
    cases start with
    | none =>
      rw [Expected.asking, present, absentMembers, absentMembers, Bool.and_true, ih]
      simp only [EndsAt.none_iff]
    | some j =>
      rw [Expected.asking, present_members_some]
      constructor
      · rintro ⟨view, seen, holds⟩
        obtain ⟨place, leads, asked⟩ := ih.mp holds
        exact ⟨place, EndsAt.cons_iff.mpr ⟨view, seen, leads⟩, asked⟩
      · rintro ⟨place, leads, asked⟩
        obtain ⟨view, seen, leads⟩ := EndsAt.cons_iff.mp leads
        exact ⟨view, seen, ih.mpr ⟨place, leads, asked⟩⟩

end Comparison

/-! ### Leaves -/

namespace CompiledLeaf

/-- The leaf that asks of one field for what is there, or missing, at the end of a path. -/
def asking (flag : Bool) (name : String) (path : List String) (compiled : CompiledOptions) :
    CompiledLeaf :=
  ⟨.presence, [(name, .asking flag path)], compiled⟩

variable {options : PredicateOptions} {compiled : CompiledOptions}

theorem compile_asking (ok : options.compile = .ok compiled) (flag : Bool) (name : String)
    (path : List String) :
    CompiledLeaf.compile .presence [(name, (Json.bool flag).under path)] options =
      .ok (asking flag name path compiled) := by
  rw [CompiledLeaf.compile, ok, Except.ok_bind, Expected.compileMembers, Expected.compile_under,
    Except.ok_bind, Expected.compileMembers, Except.ok_bind]
  rfl

end CompiledLeaf

/-- A path leads to a place from the value of a field that leaves with these parameters look at. -/
def CompiledOptions.Reaches (compiled : CompiledOptions) (request : Request) (kept : Readings)
    (name : String) (path : List String) (place : Option Json) : Prop :=
  EndsAt compiled.keyMatch path
    ((CompiledLeaf.asking true name path compiled).actual request name (.asking true path) kept).1
    place

namespace CompiledLeaf

variable {options : PredicateOptions} {compiled : CompiledOptions} {request : Request}
  {kept : Readings} {name : String} {path : List String}

/-- Both tests look at the same value. -/
theorem actual_asking (flag : Bool) :
    (asking flag name path compiled).actual request name (.asking flag path) kept =
      (asking true name path compiled).actual request name (.asking true path) kept := by
  cases flag with
  | true => rfl
  | false =>
    unfold actual
    rw [Expected.asking_isStructured]
    rfl

theorem evaluate_asking {flag : Bool} :
    ((asking flag name path compiled).evaluate request kept).1 = true ↔
      ∃ place, compiled.Reaches request kept name path place ∧
        Comparison.isPresent place = flag := by
  have fields : ((asking flag name path compiled).evaluate request kept).1 =
      Comparison.present compiled.keyMatch (.asking flag path)
        ((asking flag name path compiled).actual request name (.asking flag path) kept).1 := by
    change ((asking flag name path compiled).evaluateFields request
      [(name, .asking flag path)] kept).1 = _
    rw [evaluateFields]
    dsimp only
    split
    · next accepted => exact accepted.symm
    · next refused => exact (Bool.eq_false_iff.mpr refused).symm
  rw [fields, Comparison.present_asking, actual_asking]
  rfl

/-- Every path ends somewhere, so one of the two tests holds. -/
theorem evaluate_asking_or :
    ((asking true name path compiled).evaluate request kept).1 = true ∨
      ((asking false name path compiled).evaluate request kept).1 = true := by
  obtain ⟨place, reached⟩ : ∃ place, compiled.Reaches request kept name path place :=
    EndsAt.exists_place _ _ _
  cases found : Comparison.isPresent place with
  | true => exact .inl (evaluate_asking.mpr ⟨place, reached, found⟩)
  | false => exact .inr (evaluate_asking.mpr ⟨place, reached, found⟩)

/-- With any parameters that compile, both tests compile for every field and path, and one of them
    holds.  Just one does if, and only if, all places that the path leads to agree on whether
    something is there. -/
theorem presence_exclusive_iff (options : PredicateOptions) (request : Request) (kept : Readings)
    (name : String) (path : List String) {compiled : CompiledOptions}
    (ok : options.compile = .ok compiled) :
    ∃ there missing : CompiledLeaf,
      CompiledLeaf.compile .presence [(name, (Json.bool true).under path)] options = .ok there ∧
      CompiledLeaf.compile .presence [(name, (Json.bool false).under path)] options =
        .ok missing ∧
      ((there.evaluate request kept).1 = true ∨ (missing.evaluate request kept).1 = true) ∧
      (((there.evaluate request kept).1 = true ↔ ¬(missing.evaluate request kept).1 = true) ↔
        ∀ place other, compiled.Reaches request kept name path place →
          compiled.Reaches request kept name path other →
            Comparison.isPresent place = Comparison.isPresent other) := by
  refine ⟨_, _, compile_asking ok true name path, compile_asking ok false name path,
    evaluate_asking_or, ?_⟩
  constructor
  · intro exclusive place other first second
    -- a place of each kind would make both tests hold
    cases found : Comparison.isPresent place <;> cases otherwise : Comparison.isPresent other
    · rfl
    · exact absurd (evaluate_asking.mpr ⟨place, first, found⟩)
        (exclusive.mp (evaluate_asking.mpr ⟨other, second, otherwise⟩))
    · exact absurd (evaluate_asking.mpr ⟨other, second, otherwise⟩)
        (exclusive.mp (evaluate_asking.mpr ⟨place, first, found⟩))
    · rfl
  · intro agree
    constructor
    · intro there missing
      obtain ⟨place, first, found⟩ := evaluate_asking.mp there
      obtain ⟨other, second, nothing⟩ := evaluate_asking.mp missing
      rw [agree place other first second, nothing] at found
      cases found
    · exact evaluate_asking_or.resolve_right

/-- Whether a key is there in the body of a request, and whether it is missing. -/
def keyInBody (key : String) (request : Request) : Except DefinitionError (Bool × Bool) := do
  let there ← CompiledLeaf.compile .presence [("body", (Json.bool true).under [key])] .default
  let missing ← CompiledLeaf.compile .presence [("body", (Json.bool false).under [key])] .default
  return ((there.evaluate request []).1, (missing.evaluate request []).1)

/-- A request whose body is an array with a key in every item. -/
def everyItem : Request := [("body", .str "[\x7b\"k\":1\x7d,\x7b\"K\":[]\x7d]")]

theorem there_in_every_item :
    ∃ compiled, PredicateOptions.default.compile = .ok compiled ∧
      ∀ place other, compiled.Reaches everyItem [] "body" ["k"] place →
        compiled.Reaches everyItem [] "body" ["k"] other →
          Comparison.isPresent place = Comparison.isPresent other := by
  obtain ⟨compiled, ok⟩ : ∃ compiled, PredicateOptions.default.compile = .ok compiled :=
    ⟨_, by rfl⟩
  obtain ⟨there, missing, first, second, -, exclusive⟩ :=
    presence_exclusive_iff .default everyItem [] "body" ["k"] ok
  have answers : (keyInBody "k" everyItem).toOption = some (true, false) := by decide +kernel
  rw [keyInBody, first, Except.ok_bind, second, Except.ok_bind] at answers
  obtain ⟨holds, fails⟩ := Prod.mk.inj (Option.some.inj answers)
  exact ⟨compiled, ok, exclusive.mp (by simp [holds, fails])⟩

/-- A request whose body is an array with a key in one item and not in the other. -/
def mixedItems : Request := [("body", .str "[\x7b\"k\":1\x7d,\x7b\x7d]")]

/-- Of an array with a key in one item and not in the other, the key is there and it is missing. -/
theorem there_and_missing : (keyInBody "k" mixedItems).toOption = some (true, true) := by
  decide +kernel

end CompiledLeaf

end VirtualService
