/-
  VirtualService/Proofs/Store.lean
  ================================
  **What stays true of a store.**

  A store is sound if its identities are distinct and given out already, its cells
  are distinct and there, and every stub is the compiled form of its definition
  (`Store.Sound`).  What an edit can do to a store is said once (`Store.Edited`):
  use up identities, insert a new stub, take one out, change the definition of one,
  or put new stubs in place of all.  Soundness and the fate of identities and cells
  follow from these five, and are carried along any history of events.
-/
import Mathlib.Data.List.InsertIdx
import Mathlib.Data.List.Nodup
import VirtualService.Stub.Command

namespace VirtualService

/-! ### Lists with one item changed -/

theorem map_modify_of_kept {α β : Type} {f : α → α} {g : α → β} (kept : ∀ a, g (f a) = g a)
    (items : List α) (index : Nat) : (items.modify index f).map g = items.map g := by
  induction items generalizing index with
  | nil => simp
  | cons a rest ih =>
    cases index with
    | zero => simp [kept]
    | succ index => simp [ih]

theorem mem_of_mem_modify {α : Type} {f : α → α} {items : List α} {index : Nat} {b : α}
    (mem : b ∈ items.modify index f) : b ∈ items ∨ ∃ a ∈ items, b = f a := by
  induction items generalizing index with
  | nil => simp at mem
  | cons a rest ih =>
    cases index with
    | zero =>
      rw [List.modify_zero_cons] at mem
      rcases List.mem_cons.mp mem with rfl | mem
      · exact .inr ⟨a, List.mem_cons_self, rfl⟩
      · exact .inl (List.mem_cons_of_mem _ mem)
    | succ index =>
      rw [List.modify_succ_cons] at mem
      rcases List.mem_cons.mp mem with rfl | mem
      · exact .inl List.mem_cons_self
      · rcases ih mem with old | ⟨a', old, rfl⟩
        · exact .inl (List.mem_cons_of_mem _ old)
        · exact .inr ⟨a', List.mem_cons_of_mem _ old, rfl⟩

/-! ### Soundness -/

/-- A stub is the compiled form of its definition, which keeps no records. -/
structure Stub.Compiled (scripts : Bool) (stub : Stub) : Prop where
  tree : PredicateTree.compile scripts stub.definition.predicates = .ok stub.tree
  bare : stub.definition.records = []

namespace Store

def ids (s : Store) : List Nat := s.stubs.map Stub.id

/-- The representation of a store. -/
structure Sound (s : Store) : Prop where
  distinct : s.ids.Nodup
  issued : ∀ stub ∈ s.stubs, stub.id < s.nextId
  unshared : (s.stubs.map Stub.cell).Nodup
  held : ∀ stub ∈ s.stubs, stub.cell < s.cells.length
  compiled : ∀ stub ∈ s.stubs, stub.Compiled s.scripts

theorem sound_empty (scripts : Bool) : (empty scripts).Sound where
  distinct := List.nodup_nil
  issued := by simp [empty]
  unshared := List.nodup_nil
  held := by simp [empty]
  compiled := by simp [empty]

theorem mem_ids {s : Store} {id : Nat} : id ∈ s.ids ↔ ∃ stub ∈ s.stubs, stub.id = id :=
  List.mem_map

theorem Sound.eq_of_id {s : Store} (h : s.Sound) {a b : Stub} (ha : a ∈ s.stubs)
    (hb : b ∈ s.stubs) (same : a.id = b.id) : a = b :=
  List.inj_on_of_nodup_map h.distinct ha hb same

theorem Sound.eq_of_cell {s : Store} (h : s.Sound) {a b : Stub} (ha : a ∈ s.stubs)
    (hb : b ∈ s.stubs) (same : a.cell = b.cell) : a = b :=
  List.inj_on_of_nodup_map h.unshared ha hb same

end Store

/-! ### What an edit can do -/

namespace StoreCommand

/-- The commands after which every stub that was listed still is. -/
def keepsStubs : StoreCommand → Bool
  | .remove _ | .removeAt _ | .replaceAll _ => false
  | .insert _ _ | .replace _ _ | .record _ _ | .append _ _ => true

/-- The definitions that a command carries. -/
def definitions : StoreCommand → List StubDefinition
  | .remove _ | .removeAt _ => []
  | .insert d _ | .replace _ d | .record _ d | .append _ d => [d]
  | .replaceAll ds => ds

/-- A definition is one that the command carries, without its records. -/
def Brings (command : StoreCommand) (d : StubDefinition) : Prop :=
  ∃ carried ∈ command.definitions, d = { carried with records := [] }

/-- A definition is another with the responses of one that the command carries. -/
def Extends (command : StoreCommand) (old d : StubDefinition) : Prop :=
  ∃ carried ∈ command.definitions, d = { old with responses := old.responses ++ carried.responses }

end StoreCommand

namespace Store

/-- A store after a command: what became of the list, and which identities and cells are new. -/
inductive Edited (s : Store) (command : StoreCommand) : Store → Prop
  /-- The list is as it was; identities may be used up. -/
  | kept (issued cells : Nat) :
      Edited s command
        ⟨s.stubs, s.nextId + issued, s.cells ++ List.replicate cells .initial, s.scripts⟩
  /-- A new stub is inserted. -/
  | inserted (stub : Stub) (index : Nat) (id : stub.id = s.nextId) (cell : stub.cell = s.cells.length)
      (compiled : stub.Compiled s.scripts) (brought : command.Brings stub.definition)
      (inside : index ≤ s.stubs.length) :
      Edited s command
        ⟨s.stubs.insertIdx index stub, s.nextId + 1, s.cells ++ [.initial], s.scripts⟩
  /-- A stub is taken out. -/
  | erased (index : Nat) (drops : command.keepsStubs = false) :
      Edited s command { s with stubs := s.stubs.eraseIdx index }
  /-- One stub changes its definition and keeps its identity and cell. -/
  | changed (f : Stub → Stub) (index issued cells : Nat) (id : ∀ stub, (f stub).id = stub.id)
      (cell : ∀ stub, (f stub).cell = stub.cell)
      (compiled : ∀ stub, stub.Compiled s.scripts → (f stub).Compiled s.scripts)
      (brought : ∀ stub, command.Brings (f stub).definition ∨
        command.Extends stub.definition (f stub).definition) :
      Edited s command ⟨s.stubs.modify index f, s.nextId + issued,
        s.cells ++ List.replicate cells .initial, s.scripts⟩
  /-- New stubs stand in place of all. -/
  | replaced (stubs : List Stub) (ids : stubs.map Stub.id = List.range' s.nextId stubs.length)
      (unshared : stubs.map Stub.cell = List.range' s.cells.length stubs.length)
      (compiled : ∀ stub ∈ stubs, stub.Compiled s.scripts)
      (brought : ∀ stub ∈ stubs, command.Brings stub.definition)
      (drops : command.keepsStubs = false) :
      Edited s command ⟨stubs, s.nextId + stubs.length,
        s.cells ++ List.replicate stubs.length .initial, s.scripts⟩

/-! ### New stubs -/

/-- The stub made of a definition, once its predicates are compiled. -/
def newStub (s : Store) (d : StubDefinition) (tree : PredicateTree) : Stub :=
  ⟨s.nextId, { d with records := [] }, tree, s.cells.length⟩

theorem newStub_compiled {s : Store} {d : StubDefinition} {tree : PredicateTree}
    (h : PredicateTree.compile s.scripts d.predicates = .ok tree) :
    (s.newStub d tree).Compiled s.scripts := ⟨h, rfl⟩

theorem enlist_error {s : Store} {d : StubDefinition} {e : DefinitionError}
    (h : PredicateTree.compile s.scripts d.predicates = .error e) :
    s.enlist d = (.error e, { s with nextId := s.nextId + 1 }) := by
  simp only [enlist, h]

theorem enlist_ok {s : Store} {d : StubDefinition} {tree : PredicateTree}
    (h : PredicateTree.compile s.scripts d.predicates = .ok tree) :
    s.enlist d = (.ok (s.newStub d tree),
      { s with nextId := s.nextId + 1, cells := s.cells ++ [.initial] }) := by
  simp only [enlist, h, newStub]

/-- What is made of definitions when all of them compile. -/
structure Enlisted (s : Store) (ds : List StubDefinition) (stubs : List Stub) (t : Store) :
    Prop where
  ids : stubs.map Stub.id = List.range' s.nextId ds.length
  unshared : stubs.map Stub.cell = List.range' s.cells.length ds.length
  definitions : stubs.map Stub.definition = ds.map fun d => { d with records := [] }
  compiled : ∀ stub ∈ stubs, stub.Compiled s.scripts
  store : t = ⟨s.stubs, s.nextId + ds.length,
    s.cells ++ List.replicate ds.length .initial, s.scripts⟩

/-- Either some definition does not compile, and only identities and cells are used up, or stubs are
    made of all. -/
theorem enlistAll_cases (s : Store) (ds : List StubDefinition) :
    (∃ e issued cells, s.enlistAll ds = (.error e,
        ⟨s.stubs, s.nextId + issued, s.cells ++ List.replicate cells .initial, s.scripts⟩) ∧
        ∃ d ∈ ds, PredicateTree.compile s.scripts d.predicates = .error e) ∨
      ∃ stubs t, s.enlistAll ds = (.ok stubs, t) ∧ Enlisted s ds stubs t := by
  -- the identities and cells of the rest come after those of the first
  induction ds generalizing s with
  | nil => exact .inr ⟨[], s, rfl, rfl, rfl, rfl, by simp, by simp⟩
  | cons d ds ih =>
    cases made : PredicateTree.compile s.scripts d.predicates with
    | error e =>
      exact .inl ⟨e, 1, 0, by simp [enlistAll, enlist_error made], d, List.mem_cons_self, made⟩
    | ok tree =>
      rcases ih { s with nextId := s.nextId + 1, cells := s.cells ++ [.initial] } with
        ⟨e, issued, cells, fails, faulty, mem, fault⟩ | ⟨stubs, t, works, enlisted⟩
      · refine .inl ⟨e, issued + 1, cells + 1, ?_, faulty, List.mem_cons_of_mem _ mem, fault⟩
        simp only [enlistAll, enlist_ok made, fails]
        simp [List.replicate_succ, Nat.add_assoc, Nat.add_comm 1]
      · refine .inr ⟨s.newStub d tree :: stubs, t, ?_, ?_, ?_, ?_, ?_, ?_⟩
        · simp only [enlistAll, enlist_ok made, works]
        · rw [List.map_cons, enlisted.ids]
          rfl
        · rw [List.map_cons, enlisted.unshared, List.length_append]
          rfl
        · rw [List.map_cons, enlisted.definitions]
          rfl
        · rintro stub (_ | ⟨_, mem⟩)
          · exact newStub_compiled made
          · exact enlisted.compiled stub mem
        · rw [enlisted.store]
          simp [List.replicate_succ, Nat.add_assoc, Nat.add_comm 1]

/-! ### Every edit is one of the five -/

theorem indexOf_lt {s : Store} {id index : Nat} (h : s.indexOf id = .ok index) :
    index < s.stubs.length := by
  unfold indexOf at h
  split at h
  · next found =>
    cases h
    exact (List.findIdx?_eq_some_iff_getElem.mp found).1
  · cases h

theorem apply_edited (s : Store) (command : StoreCommand) :
    s.Edited command (s.apply command).2 := by
  have nothing : s.Edited command s := by simpa using Edited.kept (s := s) 0 0
  have wasted : s.Edited command { s with nextId := s.nextId + 1 } := by
    simpa using Edited.kept (s := s) 1 0
  have unused : s.Edited command { s with nextId := s.nextId + 1, cells := s.cells ++ [.initial] } :=
    Edited.kept 1 1
  cases command with
  | insert d position =>
    cases made : PredicateTree.compile s.scripts d.predicates with
    | error e => simpa only [apply, enlist_error made] using wasted
    | ok tree =>
      simp only [apply, enlist_ok made]
      exact .inserted _ _ rfl rfl (newStub_compiled made) ⟨d, List.mem_cons_self, rfl⟩
        (Nat.min_le_right _ _)
  | remove id =>
    cases place : s.indexOf id with
    | error e => simpa only [apply, place] using nothing
    | ok index =>
      simp only [apply, place]
      exact .erased index rfl
  | removeAt index =>
    cases there : s.stubs[index]? with
    | none => simpa only [apply, there] using nothing
    | some stub =>
      simp only [apply, there]
      exact .erased index rfl
  | replace id d =>
    cases made : PredicateTree.compile s.scripts d.predicates with
    | error e => simpa only [apply, made] using nothing
    | ok tree =>
      cases place : s.indexOf id with
      | error e => simpa only [apply, made, place] using nothing
      | ok index =>
        simp only [apply, made, place]
        simpa using Edited.changed (s := s)
          (fun stub => { stub with definition := { d with records := [] }, tree := tree })
          index 0 0 (fun _ => rfl) (fun _ => rfl) (fun _ _ => ⟨made, rfl⟩)
          fun _ => .inl ⟨d, List.mem_cons_self, rfl⟩
  | replaceAll ds =>
    rcases enlistAll_cases s ds with ⟨e, issued, cells, fails, -⟩ | ⟨stubs, t, works, enlisted⟩
    · simp only [apply, fails]
      exact .kept issued cells
    · have length : stubs.length = ds.length := by
        simpa using congrArg List.length enlisted.ids
      have brought : ∀ stub ∈ stubs, (StoreCommand.replaceAll ds).Brings stub.definition := by
        intro stub mem
        have there := List.mem_map_of_mem (f := Stub.definition) mem
        rw [enlisted.definitions] at there
        obtain ⟨d, memD, same⟩ := List.mem_map.mp there
        exact ⟨d, memD, same.symm⟩
      simp only [apply, works, enlisted.store, ← length]
      exact .replaced stubs (length ▸ enlisted.ids) (length ▸ enlisted.unshared) enlisted.compiled
        brought rfl
  | record before d =>
    cases made : PredicateTree.compile s.scripts d.predicates with
    | error e => simpa only [apply, enlist_error made] using wasted
    | ok tree =>
      simp only [apply, enlist_ok made]
      split
      · exact unused
      · next index place =>
        exact .inserted _ index rfl rfl (newStub_compiled made) ⟨d, List.mem_cons_self, rfl⟩
          (Nat.le_of_lt (indexOf_lt place))
  | append after d =>
    cases made : PredicateTree.compile s.scripts d.predicates with
    | error e => simpa only [apply, enlist_error made] using wasted
    | ok tree =>
      simp only [apply, enlist_ok made]
      split
      · exact unused
      · next index place =>
        split
        · exact .changed (fun other => extended other d.responses) _ 1 1 (fun _ => rfl)
            (fun _ => rfl) (fun _ compiled => ⟨compiled.tree, compiled.bare⟩)
            fun _ => .inr ⟨d, List.mem_cons_self, rfl⟩
        · exact .inserted _ (index + 1) rfl rfl (newStub_compiled made)
            ⟨d, List.mem_cons_self, rfl⟩ (indexOf_lt place)

/-! ### Edits keep a store sound -/

theorem Sound.issue {s : Store} (h : s.Sound) (issued cells : Nat) :
    Sound ⟨s.stubs, s.nextId + issued, s.cells ++ List.replicate cells .initial, s.scripts⟩ where
  distinct := h.distinct
  issued := fun stub mem => Nat.lt_add_right issued (h.issued stub mem)
  unshared := h.unshared
  held := fun stub mem => by
    rw [List.length_append]
    exact Nat.lt_add_right _ (h.held stub mem)
  compiled := h.compiled

theorem Sound.insertIdx {s : Store} (h : s.Sound) {stub : Stub} {index : Nat}
    (freshId : ∀ other ∈ s.stubs, other.id ≠ stub.id)
    (freshCell : ∀ other ∈ s.stubs, other.cell ≠ stub.cell) (issued : stub.id < s.nextId)
    (held : stub.cell < s.cells.length) (compiled : stub.Compiled s.scripts)
    (inside : index ≤ s.stubs.length) :
    Sound { s with stubs := s.stubs.insertIdx index stub } := by
  have perm := List.perm_insertIdx stub s.stubs inside
  have every {P : Stub → Prop} (new : P stub) (old : ∀ other ∈ s.stubs, P other) :
      ∀ other ∈ s.stubs.insertIdx index stub, P other := by
    intro other mem
    rcases List.mem_cons.mp (perm.subset mem) with rfl | mem
    · exact new
    · exact old other mem
  constructor
  · refine (perm.map Stub.id).nodup_iff.mpr (List.nodup_cons.mpr ⟨?_, h.distinct⟩)
    intro mem
    obtain ⟨other, there, same⟩ := List.mem_map.mp mem
    exact freshId other there same
  · exact every issued h.issued
  · refine (perm.map Stub.cell).nodup_iff.mpr (List.nodup_cons.mpr ⟨?_, h.unshared⟩)
    intro mem
    obtain ⟨other, there, same⟩ := List.mem_map.mp mem
    exact freshCell other there same
  · exact every held h.held
  · exact every compiled h.compiled

/-- A stub with the next identity and the next cell is new. -/
theorem Sound.insertNew {s : Store} (h : s.Sound) {stub : Stub} {index : Nat}
    (id : stub.id = s.nextId) (cell : stub.cell = s.cells.length)
    (compiled : stub.Compiled s.scripts) (inside : index ≤ s.stubs.length) :
    Sound ⟨s.stubs.insertIdx index stub, s.nextId + 1, s.cells ++ [.initial], s.scripts⟩ := by
  refine (h.issue 1 1).insertIdx ?_ ?_ ?_ ?_ compiled inside
  · exact fun other mem same => absurd (h.issued other mem) (by rw [same, id]; exact Nat.lt_irrefl _)
  · exact fun other mem same => absurd (h.held other mem) (by rw [same, cell]; exact Nat.lt_irrefl _)
  · simp [id]
  · simp [cell]

theorem Sound.eraseIdx {s : Store} (h : s.Sound) (index : Nat) :
    Sound { s with stubs := s.stubs.eraseIdx index } := by
  have sub : (s.stubs.eraseIdx index).Sublist s.stubs := List.eraseIdx_sublist ..
  exact ⟨h.distinct.sublist (sub.map _), fun stub mem => h.issued stub (sub.subset mem),
    h.unshared.sublist (sub.map _), fun stub mem => h.held stub (sub.subset mem),
    fun stub mem => h.compiled stub (sub.subset mem)⟩

theorem Sound.modify {s : Store} (h : s.Sound) {f : Stub → Stub} (index : Nat)
    (id : ∀ stub, (f stub).id = stub.id) (cell : ∀ stub, (f stub).cell = stub.cell)
    (compiled : ∀ stub, stub.Compiled s.scripts → (f stub).Compiled s.scripts) :
    Sound { s with stubs := s.stubs.modify index f } := by
  have every {P : Stub → Prop} (kept : ∀ stub, P stub → P (f stub)) (old : ∀ stub ∈ s.stubs, P stub) :
      ∀ stub ∈ s.stubs.modify index f, P stub := by
    intro stub mem
    rcases mem_of_mem_modify mem with there | ⟨a, there, rfl⟩
    · exact old stub there
    · exact kept a (old a there)
  constructor
  · rw [ids, map_modify_of_kept id]
    exact h.distinct
  · exact every (fun stub lt => (id stub).symm ▸ lt) h.issued
  · rw [map_modify_of_kept cell]
    exact h.unshared
  · exact every (fun stub lt => (cell stub).symm ▸ lt) h.held
  · exact every compiled h.compiled

theorem Edited.sound {s t : Store} {command : StoreCommand} (e : s.Edited command t)
    (h : s.Sound) : t.Sound := by
  cases e with
  | kept issued cells => exact h.issue issued cells
  | inserted stub index id cell compiled brought inside =>
    exact h.insertNew id cell compiled inside
  | erased index drops => exact h.eraseIdx index
  | changed f index issued cells id cell compiled brought =>
    exact (h.issue issued cells).modify index id cell compiled
  | replaced stubs ids unshared compiled brought drops =>
    have below {f : Stub → Nat} {start : Nat} (range : stubs.map f = List.range' start stubs.length) :
        ∀ stub ∈ stubs, f stub < start + stubs.length := by
      intro stub mem
      have inside : f stub ∈ List.range' start stubs.length :=
        range ▸ List.mem_map_of_mem mem
      exact (List.mem_range'_1.mp inside).2
    constructor
    · rw [Store.ids, ids]
      exact List.nodup_range'
    · exact below ids
    · rw [unshared]
      exact List.nodup_range'
    · intro stub mem
      rw [List.length_append, List.length_replicate]
      exact below unshared stub mem
    · exact compiled

/-! ### What becomes of identities and cells -/

/-- From one store to a later one: a stub listed later was listed before with the same cell, or both
    its identity and its cell are new. -/
structure Later (s t : Store) : Prop where
  scripts : t.scripts = s.scripts
  nextId : s.nextId ≤ t.nextId
  cells : s.cells.length ≤ t.cells.length
  fate : ∀ b ∈ t.stubs, (∃ a ∈ s.stubs, a.id = b.id ∧ a.cell = b.cell) ∨
    (s.nextId ≤ b.id ∧ s.cells.length ≤ b.cell)

theorem Later.refl (s : Store) : s.Later s :=
  ⟨rfl, Nat.le_refl _, Nat.le_refl _, fun b mem => .inl ⟨b, mem, rfl, rfl⟩⟩

theorem Later.trans {s t u : Store} (st : s.Later t) (tu : t.Later u) : s.Later u where
  scripts := tu.scripts.trans st.scripts
  nextId := Nat.le_trans st.nextId tu.nextId
  cells := Nat.le_trans st.cells tu.cells
  fate := fun c mem => by
    rcases tu.fate c mem with ⟨b, memB, id, cell⟩ | ⟨newId, newCell⟩
    · rw [← id, ← cell]
      exact st.fate b memB
    · exact .inr ⟨Nat.le_trans st.nextId newId, Nat.le_trans st.cells newCell⟩

/-- An identity that is given out and not listed is not listed later. -/
theorem Later.not_mem_ids {s t : Store} (st : s.Later t) {id : Nat} (issued : id < s.nextId)
    (absent : id ∉ s.ids) : id ∉ t.ids := by
  intro mem
  obtain ⟨b, memB, rfl⟩ := mem_ids.mp mem
  rcases st.fate b memB with ⟨a, memA, same, -⟩ | ⟨new, -⟩
  · exact absent (mem_ids.mpr ⟨a, memA, same⟩)
  · exact absurd issued (Nat.not_lt.mpr new)

theorem Later.cell_eq {s t : Store} (st : s.Later t) (h : s.Sound) {a b : Stub}
    (ha : a ∈ s.stubs) (hb : b ∈ t.stubs) (same : a.id = b.id) : a.cell = b.cell := by
  rcases st.fate b hb with ⟨a', memA, same', cell⟩ | ⟨new, -⟩
  · rw [h.eq_of_id ha memA (same.trans same'.symm), cell]
  · have := h.issued a ha
    omega

theorem Edited.later {s t : Store} {command : StoreCommand} (e : s.Edited command t) : s.Later t := by
  have old (b : Stub) (mem : b ∈ s.stubs) : (∃ a ∈ s.stubs, a.id = b.id ∧ a.cell = b.cell) ∨
      (s.nextId ≤ b.id ∧ s.cells.length ≤ b.cell) := .inl ⟨b, mem, rfl, rfl⟩
  cases e with
  | kept issued cells => exact ⟨rfl, by simp, by simp, old⟩
  | inserted stub index id cell compiled brought inside =>
    refine ⟨rfl, by simp, by simp, fun b mem => ?_⟩
    rcases List.mem_cons.mp ((List.perm_insertIdx stub s.stubs inside).subset mem) with rfl | mem
    · exact .inr ⟨Nat.le_of_eq id.symm, Nat.le_of_eq cell.symm⟩
    · exact old b mem
  | erased index drops =>
    exact ⟨rfl, Nat.le_refl _, Nat.le_refl _, fun b mem => old b (List.mem_of_mem_eraseIdx mem)⟩
  | changed f index issued cells id cell compiled brought =>
    refine ⟨rfl, by simp, by simp, fun b mem => ?_⟩
    rcases mem_of_mem_modify mem with there | ⟨a, there, rfl⟩
    · exact old b there
    · exact .inl ⟨a, there, (id a).symm, (cell a).symm⟩
  | replaced stubs ids unshared compiled brought drops =>
    have above {f : Stub → Nat} {start : Nat} (range : stubs.map f = List.range' start stubs.length)
        (stub : Stub) (mem : stub ∈ stubs) : start ≤ f stub := by
      have inside : f stub ∈ List.range' start stubs.length :=
        range ▸ List.mem_map_of_mem mem
      exact (List.mem_range'_1.mp inside).1
    exact ⟨rfl, by simp, by simp, fun b mem => .inr ⟨above ids b mem, above unshared b mem⟩⟩

/-- Who is listed stays listed, with the same cell, if the edit keeps every stub. -/
theorem Edited.keeps {s t : Store} {command : StoreCommand} (e : s.Edited command t)
    (keeps : command.keepsStubs = true) {a : Stub} (mem : a ∈ s.stubs) :
    ∃ b ∈ t.stubs, b.id = a.id ∧ b.cell = a.cell := by
  cases e with
  | erased index drops => simp [keeps] at drops
  | replaced stubs ids unshared compiled brought drops => simp [keeps] at drops
  | kept issued cells => exact ⟨a, mem, rfl, rfl⟩
  | inserted stub index id cell compiled brought inside =>
    exact ⟨a, (List.perm_insertIdx stub s.stubs inside).mem_iff.mpr (List.mem_cons_of_mem _ mem),
      rfl, rfl⟩
  | changed f index issued cells id cell compiled brought =>
    -- identity and cell are looked up together, since both must be of one stub
    have pairs : (s.stubs.modify index f).map (fun b => (b.id, b.cell)) =
        s.stubs.map fun b => (b.id, b.cell) :=
      map_modify_of_kept (fun b => by rw [id, cell]) s.stubs index
    have there : (a.id, a.cell) ∈ (s.stubs.modify index f).map fun b => (b.id, b.cell) :=
      pairs ▸ List.mem_map_of_mem mem
    obtain ⟨b, memB, same⟩ := List.mem_map.mp there
    exact ⟨b, memB, (Prod.mk.inj same).1, (Prod.mk.inj same).2⟩

/-- A definition after an edit was there before, or the command brings it, or extends another by it. -/
theorem Edited.definitions {s t : Store} {command : StoreCommand} (e : s.Edited command t)
    {b : Stub} (mem : b ∈ t.stubs) :
    (∃ a ∈ s.stubs, b.definition = a.definition) ∨ command.Brings b.definition ∨
      ∃ a ∈ s.stubs, command.Extends a.definition b.definition := by
  cases e with
  | kept issued cells => exact .inl ⟨b, mem, rfl⟩
  | inserted stub index id cell compiled brought inside =>
    rcases List.mem_cons.mp ((List.perm_insertIdx stub s.stubs inside).subset mem) with rfl | old
    · exact .inr (.inl brought)
    · exact .inl ⟨b, old, rfl⟩
  | erased index drops => exact .inl ⟨b, List.mem_of_mem_eraseIdx mem, rfl⟩
  | changed f index issued cells id cell compiled brought =>
    rcases mem_of_mem_modify mem with old | ⟨a, old, rfl⟩
    · exact .inl ⟨b, old, rfl⟩
    · exact .inr ((brought a).imp_right fun extended => ⟨a, old, extended⟩)
  | replaced stubs ids unshared compiled brought drops => exact .inr (.inl (brought b mem))

/-- Edits add cells and leave those alone that are there. -/
theorem Edited.stateAt_eq {s t : Store} {command : StoreCommand} (e : s.Edited command t) {cell : Nat}
    (held : cell < s.cells.length) :
    t.stateAt cell = s.stateAt cell := by
  cases e <;> simp [stateAt, List.getElem?_append_left held]

/-- A cell that an edit has added holds the first state. -/
theorem Edited.stateAt_new {s t : Store} {command : StoreCommand} (e : s.Edited command t) {cell : Nat}
    (new : s.cells.length ≤ cell) : t.stateAt cell = .initial := by
  have absent : s.cells[cell]? = none := List.getElem?_eq_none new
  have added (count : Nat) :
      ((s.cells ++ List.replicate count StubState.initial)[cell]?).getD .initial = .initial := by
    rw [List.getElem?_append_right new, List.getElem?_replicate]
    split <;> rfl
  cases e with
  | kept issued cells => exact added cells
  | inserted stub index id cell compiled brought inside => exact added 1
  | erased index drops => simp [stateAt, absent]
  | changed f index issued cells id cell compiled brought => exact added cells
  | replaced stubs ids unshared compiled brought drops => exact added stubs.length

/-! ### Answers and statistics -/

/-- One store is another in which the states of cells have changed. -/
def SameButStates (s t : Store) : Prop :=
  ∃ cells, cells.length = s.cells.length ∧ t = { s with cells := cells }

theorem SameButStates.refl (s : Store) : s.SameButStates s := ⟨s.cells, rfl, rfl⟩

theorem SameButStates.trans {s t u : Store} (st : s.SameButStates t) (tu : t.SameButStates u) :
    s.SameButStates u := by
  obtain ⟨cells, length, rfl⟩ := st
  obtain ⟨cells', length', rfl⟩ := tu
  exact ⟨cells', length'.trans length, rfl⟩

theorem modifyState_same (s : Store) (cell : Nat) (f : StubState → StubState) :
    s.SameButStates (s.modifyState cell f) := ⟨s.cells.modify cell f, by simp, rfl⟩

theorem answerFrom_same (s : Store) (stub : Stub) : s.SameButStates (s.answerFrom stub).2 := by
  unfold answerFrom
  split
  · exact modifyState_same s _ _
  · exact (modifyState_same s _ _).trans (modifyState_same _ _ _)

theorem resolve_same (s : Store) (request : Request) : s.SameButStates (s.resolve request).2 := by
  unfold resolve
  split
  · exact .refl s
  · exact answerFrom_same s _

theorem firstMatch_mem {request : Request} {stubs : List Stub} {kept : Readings} {stub : Stub}
    (h : firstMatch request stubs kept = some stub) : stub ∈ stubs := by
  induction stubs generalizing kept with
  | nil => cases h
  | cons first rest ih =>
    rw [firstMatch] at h
    dsimp only at h
    split at h
    · cases h
      exact List.mem_cons_self
    · exact List.mem_cons_of_mem _ (ih h)

theorem clearStatistics_same (s : Store) (id : Nat) :
    s.SameButStates (s.clearStatistics id).2 := by
  unfold clearStatistics
  split
  · exact modifyState_same s _ _
  · exact .refl s

theorem SameButStates.sound {s t : Store} (same : s.SameButStates t) (h : s.Sound) : t.Sound := by
  obtain ⟨cells, length, rfl⟩ := same
  exact ⟨h.distinct, h.issued, h.unshared, fun stub mem => length ▸ h.held stub mem, h.compiled⟩

theorem SameButStates.later {s t : Store} (same : s.SameButStates t) : s.Later t := by
  obtain ⟨cells, length, rfl⟩ := same
  exact ⟨rfl, Nat.le_refl _, Nat.le_of_eq length.symm, fun b mem => .inl ⟨b, mem, rfl, rfl⟩⟩

/-! ### States of cells -/

theorem stateAt_modifyState_self {s : Store} {cell : Nat} (held : cell < s.cells.length)
    (f : StubState → StubState) : (s.modifyState cell f).stateAt cell = f (s.stateAt cell) := by
  simp [stateAt, modifyState, held]

theorem stateAt_modifyState_ne (s : Store) {cell other : Nat} (different : other ≠ cell)
    (f : StubState → StubState) : (s.modifyState other f).stateAt cell = s.stateAt cell := by
  simp [stateAt, modifyState, different]

/-- The state in a cell after a change somewhere is the one before, or the one before changed. -/
theorem stateAt_modifyState_cases (s : Store) (cell other : Nat) (f : StubState → StubState) :
    (s.modifyState other f).stateAt cell = s.stateAt cell ∨
      (s.modifyState other f).stateAt cell = f (s.stateAt cell) := by
  by_cases same : other = cell
  · subst same
    by_cases held : other < s.cells.length
    · exact .inr (stateAt_modifyState_self held f)
    · exact .inl (by simp [stateAt, modifyState, List.getElem?_eq_none (Nat.not_lt.mp held)])
  · exact .inl (stateAt_modifyState_ne s same f)

/-- What leaves cursors alone in one cell leaves them alone in all. -/
theorem cursor_modifyState (s : Store) (cell other : Nat) {f : StubState → StubState}
    (kept : ∀ state, (f state).cursor = state.cursor) :
    ((s.modifyState other f).stateAt cell).cursor = (s.stateAt cell).cursor := by
  simp only [stateAt, modifyState, List.getElem?_modify]
  cases s.cells[cell]? with
  | none => rfl
  | some state => by_cases same : other = cell <;> simp [same, kept]

/-- An answer from one stub leaves the cells of the others alone. -/
theorem stateAt_answerFrom_ne (s : Store) {stub : Stub} {cell : Nat} (different : stub.cell ≠ cell) :
    (s.answerFrom stub).2.stateAt cell = s.stateAt cell := by
  unfold answerFrom
  split
  · exact stateAt_modifyState_ne s different _
  · dsimp only
    rw [stateAt_modifyState_ne _ different, stateAt_modifyState_ne _ different]

/-- What is selected, as a function of the stub and its cursor. -/
theorem answerFrom_eq (s : Store) (stub : Stub) :
    (s.answerFrom stub).1 = stub.definition.responses.head?.map fun first =>
      let place := ((s.stateAt stub.cell).cursor.select stub.responseCount stub.repeatsAt).1.toNat
      ⟨stub, place, stub.definition.responses.getD place first⟩ := by
  unfold answerFrom
  split
  · next none => rw [none]; rfl
  · next first rest list => rw [list]; rfl

/-- The cursor of a stub that has answered; it stays where it is if there are no responses. -/
theorem cursor_answerFrom {s : Store} {stub : Stub} (held : stub.cell < s.cells.length) :
    ((s.answerFrom stub).2.stateAt stub.cell).cursor =
      ((s.stateAt stub.cell).cursor.select stub.responseCount stub.repeatsAt).2 := by
  unfold answerFrom
  split
  · next none =>
    have count : stub.responseCount = 0 := by rw [Stub.responseCount, none]; rfl
    rw [count]
    exact cursor_modifyState s stub.cell stub.cell fun _ => rfl
  · rw [stateAt_modifyState_self (by simpa [modifyState] using held)]

end Store

/-! ### Histories -/

/-- What can happen to a store. -/
inductive StoreEvent where
  /-- A command, whether or not it succeeds. -/
  | edit (command : StoreCommand)
  | answer (request : Request)
  /-- A match is kept in a cell. -/
  | remember (cell : Nat) (record : MatchRecord)
  /-- The statistics of a stub are forgotten. -/
  | forget (id : Nat)

namespace Store

/-- The store after an event. -/
def after (s : Store) : StoreEvent → Store
  | .edit command => (s.apply command).2
  | .answer request => (s.resolve request).2
  | .remember cell record => s.modifyState cell fun state => state.record record
  | .forget id => (s.clearStatistics id).2

def run (s : Store) (events : List StoreEvent) : Store := events.foldl after s

theorem after_cases (s : Store) (event : StoreEvent) :
    (∃ command, s.Edited command (s.after event)) ∨ s.SameButStates (s.after event) := by
  cases event with
  | edit command => exact .inl ⟨_, apply_edited s command⟩
  | answer request => exact .inr (resolve_same s request)
  | remember cell record => exact .inr (modifyState_same s cell _)
  | forget id => exact .inr (clearStatistics_same s id)

theorem Sound.after {s : Store} (h : s.Sound) (event : StoreEvent) : (s.after event).Sound :=
  (after_cases s event).elim (fun ⟨_, e⟩ => e.sound h) fun same => same.sound h

theorem after_later (s : Store) (event : StoreEvent) : s.Later (s.after event) :=
  (after_cases s event).elim (fun ⟨_, e⟩ => e.later) SameButStates.later

theorem Sound.run {s : Store} (h : s.Sound) (events : List StoreEvent) : (s.run events).Sound := by
  induction events generalizing s with
  | nil => exact h
  | cons event events ih => exact ih (h.after event)

theorem run_later (s : Store) (events : List StoreEvent) : s.Later (s.run events) := by
  induction events generalizing s with
  | nil => exact .refl s
  | cons event events ih => exact (after_later s event).trans (ih (s.after event))

/-- The representation of any store that has come about from an empty one: identities are distinct and
    given out, and one that has left the list never comes back; every stub has a cell of its own,
    which it keeps for as long as it is listed, and no edit that keeps the stubs changes its state;
    every stub is the compiled form of its definition, which holds no records. -/
theorem representation_invariant (scripts : Bool) (events : List StoreEvent) :
    let s := (empty scripts).run events
    (s.ids.Nodup ∧ ∀ id ∈ s.ids, id < s.nextId) ∧
    (∀ left later id, id ∈ s.ids → id ∉ (s.run left).ids → id ∉ ((s.run left).run later).ids) ∧
    ((s.stubs.map Stub.cell).Nodup ∧ ∀ stub ∈ s.stubs, stub.cell < s.cells.length) ∧
    (∀ command : StoreCommand, command.keepsStubs = true → ∀ a ∈ s.stubs,
      ∃ b ∈ (s.apply command).2.stubs, b.id = a.id ∧ b.cell = a.cell ∧
        (s.apply command).2.stateAt b.cell = s.stateAt a.cell) ∧
    (∀ later, ∀ a ∈ s.stubs, ∀ b ∈ (s.run later).stubs, a.id = b.id → a.cell = b.cell) ∧
    (∀ stub ∈ s.stubs,
      PredicateTree.compile scripts stub.definition.predicates = .ok stub.tree) ∧
    ∀ stub ∈ s.stubs, stub.definition.records = [] := by
  intro s
  have sound : s.Sound := (sound_empty scripts).run events
  have injector : s.scripts = scripts := (run_later (empty scripts) events).scripts
  have issued : ∀ id ∈ s.ids, id < s.nextId := by
    intro id mem
    obtain ⟨stub, there, rfl⟩ := mem_ids.mp mem
    exact sound.issued stub there
  refine ⟨⟨sound.distinct, issued⟩, ?_, ⟨sound.unshared, sound.held⟩, ?_, ?_, ?_, ?_⟩
  · intro left later id mem absent
    have stillIssued := Nat.lt_of_lt_of_le (issued id mem) (run_later s left).nextId
    exact (run_later (s.run left) later).not_mem_ids stillIssued absent
  · intro command keeps a mem
    have edited := apply_edited s command
    obtain ⟨b, there, id, cell⟩ := edited.keeps keeps mem
    exact ⟨b, there, id, cell, cell ▸ edited.stateAt_eq (cell ▸ sound.held a mem)⟩
  · intro later a ha b hb same
    exact (run_later s later).cell_eq sound ha hb same
  · exact fun stub mem => injector ▸ (sound.compiled stub mem).tree
  · exact fun stub mem => (sound.compiled stub mem).bare

end Store

end VirtualService
