/-
  VirtualService/Proofs/Canonical.lean
  ====================================
  **Deep equality as equality of canonical forms.**

  The canonical form of a value (`Comparison.canonical`) keeps of a scalar what is
  seen of its text, of an array the multiset of its items' forms, and of an object
  the multiset of its keys, in lower case under the folded policy, with the forms of
  their values.  What is seen of a text is told by places and not by the loops that
  bring texts into their normal form; that the two agree is `seen_eq_normal`.  Where
  no text of the actual value stands for structure and no two of its keys agree, deep
  equality, with `multiset_equal` for arrays, is equality of these forms.

  The induction is on the expected value.  For arrays, deep equality with an item is
  then equality of forms, so any two expected items that share an item can be
  exchanged, and taking the first finds a pairing whenever there is one.  For
  objects, claimed keys and equal forms of entries are the same thing, also where
  the expected keys agree: then neither side can hold.
-/
import Mathlib.Data.Multiset.Basic
import Mathlib.Data.Multiset.MapFold
import VirtualService.Proofs.Deletion
import VirtualService.Proofs.Pairing
import VirtualService.Proofs.Structure

namespace VirtualService

/-! ### Canonical forms -/

/-- What deep equality sees of a value. -/
inductive Canon where
  | scalar (text : String)
  | listing (parts : List Canon)
  | table (entries : List (String × Canon))

namespace Canon

/-- An array.  Of all listings of a multiset it keeps one, the same for equal multisets. -/
noncomputable def array (parts : Multiset Canon) : Canon := .listing parts.toList

/-- An object, as a multiset of keys with what stands under them. -/
noncomputable def object (entries : Multiset (String × Canon)) : Canon := .table entries.toList

theorem toList_inj {α : Type} {a b : Multiset α} : a.toList = b.toList ↔ a = b := by
  constructor
  · intro same
    rw [← Multiset.coe_toList a, same, Multiset.coe_toList]
  · rintro rfl
    rfl

theorem array_inj {a b : Multiset Canon} : array a = array b ↔ a = b := by
  rw [array, array, listing.injEq, toList_inj]

theorem object_inj {a b : Multiset (String × Canon)} : object a = object b ↔ a = b := by
  rw [object, object, table.injEq, toList_inj]

end Canon

namespace Comparison

/-- What is seen of a text: the characters at the places that no match of the excluded pattern covers,
    in lower case unless case counts. -/
def seen (c : Comparison) (text : String) : String :=
  let left := match c.normalizer.excluded with
    | none => text
    | some pattern => pattern.uncovered text
  if c.normalizer.caseSensitive then left else lowered left

/-- What is seen of a key: all of it, in lower case under the folded policy. -/
def seenKey (c : Comparison) (key : String) : String :=
  if c.keyMatch = .folded then lowered key else key

mutual

/-- The canonical form of a value. -/
noncomputable def canonical (c : Comparison) : Json → Canon
  | .null => .scalar (c.seen "null")
  | .bool b => .scalar (c.seen (if b then "true" else "false"))
  | .num n => .scalar (c.seen n.text)
  | .str s => .scalar (c.seen s)
  | .arr items => .array (canonicalItems c items)
  | .obj members => .object (canonicalMembers c members)

noncomputable def canonicalItems (c : Comparison) : List Json → Multiset Canon
  | [] => 0
  | item :: items => canonical c item ::ₘ canonicalItems c items

noncomputable def canonicalMembers (c : Comparison) :
    List (String × Json) → Multiset (String × Canon)
  | [] => 0
  | (key, value) :: members => (c.seenKey key, canonical c value) ::ₘ canonicalMembers c members

end

variable {c : Comparison}

/-- The form of a member of an object. -/
noncomputable def canonicalMember (c : Comparison) (member : String × Json) : String × Canon :=
  (c.seenKey member.1, c.canonical member.2)

/-- What is seen of a text is its normal form. -/
theorem seen_eq_normal (c : Comparison) (text : String) : c.seen text = c.normalizer.normal text := by
  rw [seen, Normalizer.normal, Normalizer.strip]
  cases c.normalizer.excluded with
  | none => rfl
  | some pattern => simp only [Regex.without_eq_uncovered]

@[simp] theorem seenKey_eq_form (c : Comparison) (key : String) :
    c.seenKey key = c.keyMatch.form key := by
  cases policy : c.keyMatch <;> simp [seenKey, policy, KeyMatch.form]

theorem canonical_scalar {j : Json} (scalar : j.isStructured = false) :
    c.canonical j = .scalar (c.normalizer.normal j.plainText) := by
  rw [← seen_eq_normal]
  cases j with
  | arr items => cases scalar
  | obj members => cases scalar
  | bool b => cases b <;> rfl
  | num n =>
    have written : (Json.num n).plainText = n.text :=
      congrArg String.ofList (List.append_nil n.chars)
    rw [written, canonical]
  | _ => rfl

theorem canonical_arr (items : List Json) :
    c.canonical (.arr items) = .array ((items : Multiset Json).map c.canonical) := by
  have each : c.canonicalItems items = (items : Multiset Json).map c.canonical := by
    induction items with
    | nil => rfl
    | cons item items ih => rw [canonicalItems, ih, ← Multiset.cons_coe, Multiset.map_cons]
  rw [canonical, each]

theorem canonical_obj (members : Dict Json) :
    c.canonical (.obj members) =
      .object ((members : Multiset (String × Json)).map c.canonicalMember) := by
  have each : c.canonicalMembers members =
      (members : Multiset (String × Json)).map c.canonicalMember := by
    induction members with
    | nil => rfl
    | cons member members ih =>
      rw [canonicalMembers, ih, ← Multiset.cons_coe, Multiset.map_cons, canonicalMember]
  rw [canonical, each]

end Comparison

/-! ### Texts that stand for themselves -/

namespace Json

mutual

/-- No text within the value stands for an array or an object. -/
def Verbatim : Json → Prop
  | .null => True
  | .bool _ => True
  | .num _ => True
  | .str text => ∀ j, interpret text = some j → j.isStructured = false
  | .arr items => VerbatimItems items
  | .obj members => VerbatimMembers members

def VerbatimItems : List Json → Prop
  | [] => True
  | item :: items => Verbatim item ∧ VerbatimItems items

def VerbatimMembers : List (String × Json) → Prop
  | [] => True
  | (_, value) :: members => Verbatim value ∧ VerbatimMembers members

end

theorem verbatim_str {text : String} (unread : interpret text = none) : (Json.str text).Verbatim := by
  intro j read
  rw [unread] at read
  cases read

theorem verbatim_arr {items : List Json} :
    (Json.arr items).Verbatim ↔ ∀ item ∈ items, item.Verbatim := by
  rw [Verbatim]
  induction items with
  | nil => simp [VerbatimItems]
  | cons item items ih => simp [VerbatimItems, ih]

theorem verbatim_obj {members : Dict Json} :
    (Json.obj members).Verbatim ↔ ∀ member ∈ members, member.2.Verbatim := by
  rw [Verbatim]
  induction members with
  | nil => simp [VerbatimMembers]
  | cons member members ih => simp [VerbatimMembers, ih]

/-- Such a value is not entered as anything else. -/
theorem Verbatim.entered_iff {j inner : Json} (verbatim : j.Verbatim)
    (structured : inner.isStructured = true) : j.entered = inner ↔ j = inner := by
  cases j with
  | str text =>
    have own : Json.str text ≠ inner := by
      rintro rfl
      cases structured
    cases read : interpret text with
    | none => simp [entered, read]
    | some value =>
      have scalar := verbatim value read
      have other : value ≠ inner := by
        rintro rfl
        rw [structured] at scalar
        cases scalar
      simp [entered, read, own, other]
  | _ => rfl

end Json

namespace Comparison

variable {c : Comparison}

/-! ### Arrays and objects -/

theorem wanted_scalar {n : Normalizer} {j : Json} (scalar : j.isStructured = false) :
    Expected.wanted n j = .scalar (.text (n.normal j.plainText)) := by
  cases j with
  | arr items => cases scalar
  | obj members => cases scalar
  | _ => rfl

/-- If deep equality with an item is equality of forms, deep equality of arrays is equality of the
    multisets of forms. -/
theorem deepEqualItems_wanted_iff {parts items : List Json}
    (each : ∀ part ∈ parts, ∀ item ∈ items,
      c.deepEqual (Expected.wanted c.normalizer part) item = true ↔
        c.canonical part = c.canonical item) :
    (Expected.wantedItems c.normalizer parts).length = items.length ∧
        c.deepEqualItems (Expected.wantedItems c.normalizer parts) items = true ↔
      (parts : Multiset Json).map c.canonical = (items : Multiset Json).map c.canonical := by
  have paired : c.Paired (Expected.wantedItems c.normalizer parts) items ↔
      (parts : Multiset Json).map c.canonical = (items : Multiset Json).map c.canonical := by
    rw [Paired, Expected.wantedItems_eq_map, ← Multiset.map_coe, Multiset.rel_map_left,
      ← Multiset.rel_eq, Multiset.rel_map]
    constructor
    · intro rel
      exact rel.mono fun part memP item memI => (each part memP item memI).mp
    · intro rel
      exact rel.mono fun part memP item memI => (each part memP item memI).mpr
  rw [← paired]
  constructor
  · rintro ⟨length, equal⟩
    exact paired_of_deepEqualItems length equal
  · intro pairing
    refine ⟨by simpa using Multiset.card_eq_card_of_rel pairing, ?_⟩
    refine deepEqualItems_of_paired ?_ pairing
    rw [Expected.wantedItems_eq_map]
    intro d memD e memE x memX y memY dx ex dy
    obtain ⟨first, memFirst, rfl⟩ := List.mem_map.mp memD
    obtain ⟨second, memSecond, rfl⟩ := List.mem_map.mp memE
    have shared := ((each first memFirst x memX).mp dx).symm.trans ((each first memFirst y memY).mp dy)
    exact (each second memSecond y memY).mpr (((each second memSecond x memX).mp ex).trans shared)

/-- The same for objects, in the actual one of which no two keys agree. -/
theorem deepEqualMembers_wanted_iff {entries members : Dict Json} (apart : c.keyMatch.Apart members)
    (each : ∀ entry ∈ entries, ∀ member ∈ members,
      c.deepEqual (Expected.wanted c.normalizer entry.2) member.2 = true ↔
        c.canonical entry.2 = c.canonical member.2) :
    (Expected.wantedMembers c.normalizer entries).length = members.length ∧
        c.deepEqualMembers (Expected.wantedMembers c.normalizer entries) members [] = true ↔
      (entries : Multiset (String × Json)).map c.canonicalMember =
        (members : Multiset (String × Json)).map c.canonicalMember := by
  rw [Expected.wantedMembers_length, deepEqualMembers_iff, Expected.wantedMembers_eq_map,
    Multiset.map_coe, Multiset.map_coe, Multiset.coe_eq_coe]
  have keys : c.keyMatch.Apart (entries.map fun entry =>
      (entry.1, Expected.wanted c.normalizer entry.2)) ↔
      ((entries.map c.canonicalMember).map Prod.fst).Nodup := by
    simp [KeyMatch.Apart, canonicalMember, Function.comp_def]
  rw [keys]
  constructor
  · rintro ⟨length, distinct, claims⟩
    have within : entries.map c.canonicalMember ⊆ members.map c.canonicalMember := by
      intro form there
      obtain ⟨entry, mem, rfl⟩ := List.mem_map.mp there
      obtain ⟨found, lookup, -, own⟩ := claims _ (List.mem_map_of_mem mem)
      obtain ⟨memFound, agree⟩ := KeyMatch.lookup?_eq_some lookup
      have value := (each entry mem found memFound).mp own
      have key : c.seenKey found.1 = c.seenKey entry.1 := by simpa using agree
      exact List.mem_map.mpr ⟨found, memFound, Prod.ext key value.symm⟩
    exact (List.subperm_of_subset distinct.of_map within).perm_of_length_le (by simp [length])
  · intro perm
    have distinct : ((entries.map c.canonicalMember).map Prod.fst).Nodup := by
      rw [(perm.map Prod.fst).nodup_iff]
      simpa [KeyMatch.Apart, canonicalMember, Function.comp_def] using apart
    refine ⟨by simpa using perm.length_eq, distinct, fun wanted memWanted => ?_⟩
    obtain ⟨entry, mem, rfl⟩ := List.mem_map.mp memWanted
    obtain ⟨found, memFound, same⟩ :=
      List.mem_map.mp (perm.mem_iff.mp (List.mem_map_of_mem mem))
    obtain ⟨key, value⟩ := Prod.mk.inj same
    have agree : c.keyMatch.form found.1 = c.keyMatch.form entry.1 := by simpa using key
    exact ⟨found, apart.lookup? memFound agree, List.not_mem_nil,
      (each entry mem found memFound).mpr value.symm⟩

/-! ### Values -/

theorem arr_of_canonical {v : Json} {parts : Multiset Canon} (form : .array parts = c.canonical v) :
    ∃ items, v = .arr items := by
  cases v with
  | arr items => exact ⟨items, rfl⟩
  | obj members => simp [canonical_obj, Canon.array, Canon.object] at form
  | _ => simp [canonical, Canon.array] at form

theorem obj_of_canonical {v : Json} {entries : Multiset (String × Canon)}
    (form : .object entries = c.canonical v) : ∃ members, v = .obj members := by
  cases v with
  | obj members => exact ⟨members, rfl⟩
  | arr items => simp [canonical_arr, Canon.array, Canon.object] at form
  | _ => simp [canonical, Canon.object] at form

/-- Deep equality with what is wanted is equality of canonical forms. -/
theorem deepEqual_wanted_iff (equal : c.relation = .equal) {e v : Json} (verbatim : v.Verbatim)
    (apart : v.Apart c.keyMatch) :
    c.deepEqual (Expected.wanted c.normalizer e) v = true ↔ c.canonical e = c.canonical v := by
  induction e using Json.induction generalizing v with
  | scalar e isScalar =>
    rw [wanted_scalar isScalar, deepEqual_text_iff equal, canonical_scalar isScalar]
    cases v with
    | arr items => simp [canonical_arr, Canon.array, Json.isStructured]
    | obj members => simp [canonical_obj, Canon.object, Json.isStructured]
    | _ =>
      rw [canonical_scalar (by rfl)]
      simp [Json.isStructured, eq_comm]
  | arr parts ih =>
    have inside {items : List Json} (own : v = .arr items) :=
      @deepEqualItems_wanted_iff c parts items
        fun part memP item memI => ih part memP (Json.verbatim_arr.mp (own ▸ verbatim) item memI)
          (Json.apart_arr.mp (own ▸ apart) item memI)
    rw [Expected.wanted, deepEqual_items_iff, canonical_arr]
    constructor
    · rintro ⟨items, entered, pairs⟩
      have own := (verbatim.entered_iff (by rfl)).mp entered
      rw [own, canonical_arr, Canon.array_inj]
      exact (inside own).mp pairs
    · intro same
      obtain ⟨items, own⟩ := arr_of_canonical same
      rw [own, canonical_arr, Canon.array_inj] at same
      exact ⟨items, (verbatim.entered_iff (by rfl)).mpr own, (inside own).mpr same⟩
  | obj entries ih =>
    have apartWithin {members : Dict Json} (own : v = .obj members) :
        c.keyMatch.Apart members ∧ ∀ member ∈ members, member.2.Apart c.keyMatch :=
      Json.apart_obj.mp (own ▸ apart)
    have inside {members : Dict Json} (own : v = .obj members) :=
      @deepEqualMembers_wanted_iff c entries members (apartWithin own).1
        fun entry memE member memM => ih entry memE
          (Json.verbatim_obj.mp (own ▸ verbatim) member memM) ((apartWithin own).2 member memM)
    rw [Expected.wanted, deepEqual_members_iff, canonical_obj]
    constructor
    · rintro ⟨members, entered, claims⟩
      have own := (verbatim.entered_iff (by rfl)).mp entered
      rw [own, canonical_obj, Canon.object_inj]
      exact (inside own).mp claims
    · intro same
      obtain ⟨members, own⟩ := obj_of_canonical same
      rw [own, canonical_obj, Canon.object_inj] at same
      exact ⟨members, (verbatim.entered_iff (by rfl)).mpr own, (inside own).mpr same⟩

/-- Deep equality can be asked for with any value, and holds of an actual value, no text of which
    stands for structure and no two keys of which agree, exactly if both have one canonical form. -/
theorem deepEqual_iff_canonical (equal : c.relation = .equal) (e : Json) {v : Json}
    (wellFormed : v.WellFormed) (verbatim : v.Verbatim)
    (apart : c.keyMatch = .folded → v.Apart .folded) :
    ∃ expected, Expected.compile .deepEquals c.normalizer e = .ok expected ∧
      (c.deepEqual expected v = true ↔ c.canonical e = c.canonical v) :=
  ⟨_, Expected.compile_deepEquals c.normalizer e,
    deepEqual_wanted_iff equal verbatim (wellFormed.apart apart)⟩

/-- A note, as it is expected. -/
def expectedNote (done : String) : Json :=
  .obj [("DONE", .str done), ("tags", .arr [.str "B", .str "a", .str "b"])]

/-- The note, with its keys, texts and tags written otherwise. -/
def actualNote : Json := .obj [("Tags", .arr [.str "A", .str "b", .str "B"]), ("done", .bool false)]

/-- Deep equality where digits are excluded and case counts, in keys too. -/
def digitsAside : Comparison := ⟨.equal, ⟨true, Regex.compile? "[0-9]+" false⟩, .exact⟩

/-- A room under a key. -/
def room (key name : String) : Json := .obj [(key, .str name)]

theorem notes_of_one_form :
    actualNote.WellFormed ∧ actualNote.Verbatim ∧ actualNote.Apart .folded ∧
      plainly.canonical (expectedNote "False") = plainly.canonical actualNote ∧
      plainly.canonical (expectedNote "True") ≠ plainly.canonical actualNote ∧
      digitsAside.canonical (room "room" "A12") = digitsAside.canonical (room "room" "A7") ∧
      digitsAside.canonical (room "room" "A12") ≠ digitsAside.canonical (room "room" "a7") ∧
      digitsAside.canonical (room "room" "A12") ≠ digitsAside.canonical (room "Room" "A7") := by
  have wellFormed : actualNote.WellFormed := by
    refine Json.wellFormed_obj.mpr ⟨⟨?_, ⟨?_, trivial⟩⟩, ?_⟩
    · exact List.forall_mem_singleton.mpr (by decide)
    · exact List.forall_mem_nil _
    · simp [Json.WellFormed, Json.WellFormedItems]
  have verbatim : actualNote.Verbatim :=
    ⟨⟨Json.verbatim_str (by rfl), Json.verbatim_str (by rfl), Json.verbatim_str (by rfl), trivial⟩,
      trivial, trivial⟩
  have apart : actualNote.Apart .folded :=
    ⟨by decide, ⟨trivial, trivial, trivial, trivial⟩, trivial, trivial⟩
  have note (e : Json) : plainly.deepEqual (Expected.wanted plainly.normalizer e) actualNote = true ↔
      plainly.canonical e = plainly.canonical actualNote := by
    obtain ⟨expected, compiled, same⟩ :=
      @deepEqual_iff_canonical plainly rfl e actualNote wellFormed verbatim (fun _ => apart)
    rw [Expected.compile_deepEquals] at compiled
    cases compiled
    exact same
  have rooms (e : Json) (key name : String) (unread : interpret name = none) :
      digitsAside.deepEqual (Expected.wanted digitsAside.normalizer e) (room key name) = true ↔
        digitsAside.canonical e = digitsAside.canonical (room key name) := by
    obtain ⟨expected, compiled, same⟩ := @deepEqual_iff_canonical digitsAside rfl e (room key name)
      (Json.wellFormed_obj.mpr ⟨⟨List.forall_mem_nil _, trivial⟩, by simp [Json.WellFormed]⟩)
      ⟨Json.verbatim_str unread, trivial⟩ (fun folded => by cases folded)
    rw [Expected.compile_deepEquals] at compiled
    cases compiled
    exact same
  exact ⟨wellFormed, verbatim, apart, (note _).mp (by decide +kernel),
    mt (note _).mpr (by decide +kernel), (rooms _ "room" "A7" (by rfl)).mp (by decide +kernel),
    mt (rooms _ "room" "a7" (by rfl)).mpr (by decide +kernel),
    mt (rooms _ "Room" "A7" (by rfl)).mpr (by decide +kernel)⟩

end Comparison

end VirtualService
