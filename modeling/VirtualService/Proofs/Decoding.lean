/-
  VirtualService/Proofs/Decoding.lean
  ===================================
  **Reading records, and reading back what was written.**

  Two facts about a decoder are of interest.  What it makes of well-formed values
  may have a property (`Decoder.Yields`), and it may read back what its encoder
  writes.  Both are carried here from the parts of a record to the record: through
  options, lists and dictionaries, and through fields that are there or not.

  A written record is the list of the fields that are there (`Fields.given`), and a
  field is found in it under its name as it was given.
-/
import VirtualService.Decode
import VirtualService.Proofs.WellFormed

namespace VirtualService

/-! ### Readings that succeed -/

theorem Except.ok_bind {ε α β : Type} (a : α) (f : α → Except ε β) :
    (Except.ok a >>= f) = f a := rfl

theorem Except.bind_eq_ok {ε α β : Type} {x : Except ε α} {f : α → Except ε β} {b : β} :
    (x >>= f) = .ok b ↔ ∃ a, x = .ok a ∧ f a = .ok b := by
  cases x with
  | error e => simp [bind, Except.bind]
  | ok a => simp [bind, Except.bind]

theorem Except.map_eq_ok {ε α β : Type} {x : Except ε α} {f : α → β} {b : β} :
    x.map f = .ok b ↔ ∃ a, x = .ok a ∧ f a = b := by
  cases x with
  | error e => simp [Except.map]
  | ok a => simp [Except.map]

theorem Except.bind_eq_error {ε α β : Type} {x : Except ε α} {f : α → Except ε β} {e : ε} :
    (x >>= f) = .error e ↔ x = .error e ∨ ∃ a, x = .ok a ∧ f a = .error e := by
  cases x with
  | error e => simp [bind, Except.bind]
  | ok a => simp [bind, Except.bind]

theorem Except.map_eq_error {ε α β : Type} {x : Except ε α} {f : α → β} {e : ε} :
    x.map f = .error e ↔ x = .error e := by
  cases x with
  | error e => simp [Except.map]
  | ok a => simp [Except.map]

/-- Every result of a successful pass over a list comes from one of its items. -/
theorem mapM_eq_ok_mem {ε α β : Type} {f : α → Except ε β} {items : List α} {results : List β}
    (h : items.mapM f = .ok results) : ∀ b ∈ results, ∃ a ∈ items, f a = .ok b := by
  induction items generalizing results with
  | nil =>
    cases h
    simp
  | cons a rest ih =>
    rw [List.mapM_cons] at h
    obtain ⟨b, hb, h⟩ := Except.bind_eq_ok.mp h
    obtain ⟨bs, hbs, h⟩ := Except.bind_eq_ok.mp h
    cases h
    intro c mem
    rcases List.mem_cons.mp mem with rfl | mem
    · exact ⟨a, List.mem_cons_self, hb⟩
    · obtain ⟨a', mem', found⟩ := ih hbs c mem
      exact ⟨a', List.mem_cons_of_mem _ mem', found⟩

/-- A pass over a list succeeds only if it does at each of its items. -/
theorem ok_of_mapM_eq_ok {ε α β : Type} {f : α → Except ε β} {items : List α} {results : List β}
    (h : items.mapM f = .ok results) : ∀ a ∈ items, ∃ b, f a = .ok b := by
  induction items generalizing results with
  | nil => exact List.forall_mem_nil _
  | cons a rest ih =>
    rw [List.mapM_cons] at h
    obtain ⟨b, hb, h⟩ := Except.bind_eq_ok.mp h
    obtain ⟨bs, hbs, -⟩ := Except.bind_eq_ok.mp h
    exact List.forall_mem_cons.mpr ⟨⟨b, hb⟩, ih hbs⟩

theorem mapM_map_eq_ok {ε α β : Type} {f : β → Except ε α} {g : α → β} {items : List α}
    (h : ∀ a ∈ items, f (g a) = .ok a) : (items.map g).mapM f = .ok items := by
  induction items with
  | nil => rfl
  | cons a rest ih =>
    rw [List.map_cons, List.mapM_cons, h a List.mem_cons_self,
      ih fun b mem => h b (List.mem_cons_of_mem _ mem)]
    rfl

namespace Decoder

variable {α β : Type}

/-- What a decoder makes of well-formed values has a property. -/
def Yields (decode : Decoder α) (P : α → Prop) : Prop :=
  ∀ j, j.WellFormed → ∀ a, decode j = .ok a → P a

/-- Some well-formed value is read so. -/
def Reads (decode : Decoder α) (a : α) : Prop := ∃ j, j.WellFormed ∧ decode j = .ok a

theorem Yields.of_reads {decode : Decoder α} {P : α → Prop} (h : Yields decode P) {a : α}
    (reads : Reads decode a) : P a := by
  obtain ⟨j, wf, read⟩ := reads
  exact h j wf a read

/-! ### What decoders yield -/

theorem yields_any : Yields any Json.WellFormed := by
  intro j h a heq
  cases heq
  exact h

theorem yields_map : Yields map fun members => (Json.obj members).WellFormed := by
  intro j h members heq
  cases j with
  | obj entries =>
    cases heq
    exact h
  | _ => cases heq

theorem Yields.option {decode : Decoder α} {P : α → Prop} (h : Yields decode P) :
    Yields (option decode) fun o => ∀ a ∈ o, P a := by
  intro j wf o heq
  unfold Decoder.option at heq
  split at heq
  · cases heq
    simp
  · obtain ⟨a, read, rfl⟩ := Except.map_eq_ok.mp heq
    simpa using h j wf a read

theorem Yields.list {decode : Decoder α} {P : α → Prop} (h : Yields decode P) :
    Yields (list decode) fun as => ∀ a ∈ as, P a := by
  intro j wf as heq a mem
  cases j with
  | arr items =>
    obtain ⟨item, memItem, read⟩ := mapM_eq_ok_mem heq a mem
    exact h item (Json.wellFormed_arr.mp wf item memItem) a read
  | _ => cases heq

theorem keys_of_mapM {decode : Decoder α} {entries : Dict Json} {d : Dict α}
    (h : entries.mapM (fun entry => (decode entry.2).map fun a => (entry.1, a)) = .ok d) :
    d.map Prod.fst = entries.map Prod.fst := by
  induction entries generalizing d with
  | nil =>
    cases h
    rfl
  | cons entry rest ih =>
    rw [List.mapM_cons] at h
    obtain ⟨b, hb, h⟩ := Except.bind_eq_ok.mp h
    obtain ⟨bs, hbs, h⟩ := Except.bind_eq_ok.mp h
    cases h
    obtain ⟨a, -, rfl⟩ := Except.map_eq_ok.mp hb
    rw [List.map_cons, List.map_cons, ih hbs]

theorem yields_dict (decode : Decoder α) : Yields (dict decode) Dict.Sorted := by
  intro j wf d heq
  cases j with
  | obj members => exact Dict.sorted_of_keys (keys_of_mapM heq) (Json.wellFormed_obj.mp wf).1
  | _ => cases heq

/-! ### Reading back -/

theorem natBelow_nat {bound n : Nat} (h : n < bound) (name : String) :
    natBelow bound name (Json.nat n) = .ok n := by
  have range : (0 : Int) ≤ n ∧ (n : Int) < bound := by omega
  simp [natBelow, Json.nat, range]

theorem word16_nat (n : UInt16) : word16 (Json.nat n.toNat) = .ok n := by
  rw [word16, natBelow_nat (by have := n.toNat_lt; exact this)]
  simp [Except.map]

theorem word64_nat (n : UInt64) : word64 (Json.nat n.toNat) = .ok n := by
  rw [word64, natBelow_nat (by have := n.toNat_lt; exact this)]
  simp [Except.map]

theorem option_of_ne_null {decode : Decoder α} {j : Json} (h : j ≠ .null) :
    option decode j = (decode j).map some := by
  cases j with
  | null => exact absurd rfl h
  | _ => rfl

theorem list_map {decode : Decoder α} {encode : α → Json} {as : List α}
    (h : ∀ a ∈ as, decode (encode a) = .ok a) : list decode (.arr (as.map encode)) = .ok as :=
  mapM_map_eq_ok h

theorem dict_mapValues {decode : Decoder α} {encode : α → Json} {d : Dict α}
    (h : ∀ entry ∈ d, decode (encode entry.2) = .ok entry.2) :
    dict decode (.obj (Dict.mapValues encode d)) = .ok d :=
  Dict.mapM_values encode d decode h

end Decoder

/-! ### Fields of a record -/

namespace Fields

variable {α : Type}

/-- The values from which the fields are read are well-formed. -/
def WellFormed : Fields → Prop
  | named members => (Json.obj members).WellFormed
  | ordered items _ _ => (Json.arr items).WellFormed

theorem WellFormed.find? {fields : Fields} (h : fields.WellFormed) {name : String} {j : Json}
    (found : fields.find? name = some j) : j.WellFormed := by
  cases fields with
  | named members => exact Json.WellFormed.find? h found
  | ordered items record declared =>
    exact Json.wellFormed_arr.mp h j (List.mem_of_getElem? found)

theorem yields_ofJson (record : String) (declared : List String) :
    Decoder.Yields (ofJson record declared) WellFormed := by
  intro j wf fields heq
  cases j with
  | obj members =>
    cases heq
    exact wf
  | arr items =>
    cases heq
    exact wf
  | _ => cases heq

theorem yields_membersOf (record : String) :
    Decoder.Yields (membersOf record) fun members => (Json.obj members).WellFormed := by
  intro j wf members heq
  cases j with
  | obj entries =>
    cases heq
    exact wf
  | _ => cases heq

/-! What is read from the fields has the properties that the decoders yield. -/

theorem read_yields {fields : Fields} (wf : fields.WellFormed) {name : String} {decode : Decoder α}
    {P : α → Prop} (h : decode.Yields P) {o : Option α} (heq : fields.read name decode = .ok o) :
    ∀ a ∈ o, P a := by
  rw [read] at heq
  split at heq
  · cases heq
    simp
  · next j found =>
    obtain ⟨a, decoded, rfl⟩ := Except.map_eq_ok.mp heq
    simpa using h j (wf.find? found) a decoded

theorem readOr_yields {fields : Fields} (wf : fields.WellFormed) {name : String}
    {decode : Decoder α} {P : α → Prop} (h : decode.Yields P) {otherwise : α}
    (default : P otherwise) {a : α} (heq : fields.readOr name decode otherwise = .ok a) : P a := by
  obtain ⟨o, decoded, rfl⟩ := Except.map_eq_ok.mp heq
  cases o with
  | none => exact default
  | some a => exact read_yields wf h decoded a rfl

theorem readOption_yields {fields : Fields} (wf : fields.WellFormed) {name : String}
    {decode : Decoder α} {P : α → Prop} (h : decode.Yields P) {o : Option α}
    (heq : fields.readOption name decode = .ok o) : ∀ a ∈ o, P a := by
  obtain ⟨o, decoded, rfl⟩ := Except.map_eq_ok.mp heq
  cases o with
  | none => simp
  | some o => simpa using read_yields wf h.option decoded o rfl

/-- What stands in a field has been read. -/
theorem decode_of_readOr {fields : Fields} {name : String} {decode : Decoder α} {otherwise a : α}
    {j : Json} (there : fields.find? name = some j)
    (heq : fields.readOr name decode otherwise = .ok a) : decode j = .ok a := by
  obtain ⟨o, decoded, rfl⟩ := Except.map_eq_ok.mp heq
  rw [read, there] at decoded
  obtain ⟨b, own, rfl⟩ := Except.map_eq_ok.mp decoded
  exact own

theorem require_eq_ok {fields : Fields} {name : String} {o : Option α} {a : α}
    (h : fields.require name o = .ok a) : o = some a := by
  cases o with
  | none => cases fields <;> cases h
  | some b =>
    cases h
    rfl

/-- Where no reading has a fault, there is no first one, in whatever order they are taken. -/
theorem firstFault_eq_ok (fields : Fields) {faults : List (String × Option DecodeError)}
    (h : ∀ entry ∈ faults, entry.2 = none) : fields.firstFault faults = .ok () := by
  have none_of : ∀ inOrder : List (String × Option DecodeError),
      (∀ entry ∈ inOrder, entry ∈ faults) → inOrder.findSome? Prod.snd = none := by
    intro inOrder sub
    exact List.findSome?_eq_none_iff.mpr fun entry mem => h entry (sub entry mem)
  cases fields with
  | named members =>
    simp only [firstFault]
    rw [none_of _ fun entry mem => List.mem_mergeSort.mp mem]
  | ordered items record declared =>
    simp only [firstFault]
    rw [none_of faults fun _ mem => mem]

/-! ### Written records -/

/-- The fields that are there, with their values. -/
def given (fields : List (String × Option Json)) : List (String × Json) :=
  fields.filterMap fun field => field.2.map fun j => (field.1, j)

/-- The value given for a name. -/
def valueOf? (fields : List (String × Option Json)) (name : String) : Option Json :=
  match fields with
  | [] => none
  | (key, value) :: rest => if key = name then value else valueOf? rest name

theorem mem_given {fields : List (String × Option Json)} {entry : String × Json}
    (mem : entry ∈ given fields) : (entry.1, some entry.2) ∈ fields := by
  obtain ⟨field, stands, heq⟩ := List.mem_filterMap.mp mem
  obtain ⟨j, value, rfl⟩ := Option.map_eq_some_iff.mp heq
  rw [← value]
  exact stands

theorem find?_given_reverse (fields : List (String × Option Json))
    (nodup : (fields.map Prod.fst).Nodup) (name : String) :
    Dict.find? (given fields).reverse name = valueOf? fields name := by
  induction fields with
  | nil => rfl
  | cons field rest ih =>
    obtain ⟨key, value⟩ := field
    obtain ⟨fresh, distinct⟩ := List.nodup_cons.mp nodup
    have absent : key = name → Dict.find? (given rest).reverse name = none := by
      rintro rfl
      refine Dict.find?_eq_none fun entry mem heq => fresh ?_
      have stands := mem_given (List.mem_reverse.mp mem)
      exact List.mem_map.mpr ⟨_, stands, heq⟩
    cases value with
    | none =>
      rw [valueOf?, ← ih distinct]
      by_cases h : key = name
      · rw [if_pos h]
        exact absent h
      · rw [if_neg h]
        rfl
    | some j =>
      rw [valueOf?, ← ih distinct,
        show given ((key, some j) :: rest) = (key, j) :: given rest from rfl, List.reverse_cons,
        Dict.find?_append]
      by_cases h : key = name
      · rw [absent h]
        simp [h]
      · simp [h]

/-- In a written record each field is found as it was given. -/
theorem find?_ofList_given (fields : List (String × Option Json))
    (nodup : (fields.map Prod.fst).Nodup) (name : String) :
    Dict.find? (Dict.ofList (given fields)) name = valueOf? fields name := by
  rw [Dict.find?_ofList, find?_given_reverse fields nodup]

theorem given_append (a b : List (String × Option Json)) : given (a ++ b) = given a ++ given b :=
  List.filterMap_append

/-- Members that follow the fields of a written record are found before these. -/
theorem find?_ofList_given_append (fields : List (String × Option Json))
    (nodup : (fields.map Prod.fst).Nodup) {extra : Dict Json} (sorted : Dict.Sorted extra)
    (name : String) :
    Dict.find? (Dict.ofList (given fields ++ extra)) name =
      (Dict.find? extra name).or (valueOf? fields name) := by
  rw [Dict.find?_ofList, List.reverse_append, Dict.find?_append,
    Dict.find?_reverse_of_sorted sorted, find?_given_reverse fields nodup]

section ReadingBack

variable {members : Dict Json} {name : String} {decode : Decoder α} (encode : α → Json)

theorem read_named {o : Option α} (found : Dict.find? members name = o.map encode)
    (back : ∀ a ∈ o, decode (encode a) = .ok a) : (named members).read name decode = .ok o := by
  rw [read, Fields.find?, found]
  cases o with
  | none => rfl
  | some a =>
    rw [Option.map_some]
    dsimp only
    rw [back a rfl]
    rfl

theorem readOr_named {o : Option α} {otherwise : α}
    (found : Dict.find? members name = o.map encode)
    (back : ∀ a ∈ o, decode (encode a) = .ok a) :
    (named members).readOr name decode otherwise = .ok (o.getD otherwise) := by
  rw [readOr, read_named encode found back]
  rfl

theorem read_option_named {o : Option α} (found : Dict.find? members name = o.map encode)
    (back : ∀ a ∈ o, decode (encode a) = .ok a) (notNull : ∀ a ∈ o, encode a ≠ .null) :
    (named members).read name (Decoder.option decode) = .ok (o.map some) := by
  rw [read, Fields.find?, found]
  cases o with
  | none => rfl
  | some a =>
    rw [Option.map_some]
    dsimp only
    rw [Decoder.option_of_ne_null (notNull a rfl), back a rfl]
    rfl

theorem readOption_named {o : Option α} (found : Dict.find? members name = o.map encode)
    (back : ∀ a ∈ o, decode (encode a) = .ok a) (notNull : ∀ a ∈ o, encode a ≠ .null) :
    (named members).readOption name decode = .ok o := by
  rw [readOption, read_option_named encode found back notNull]
  cases o <;> rfl

/-- A list is left out when it is empty, and then read as the empty list. -/
theorem readOr_named_nil {β : Type} {decode : Decoder (List β)} (encode : List β → Json)
    {as : List β} (found : Dict.find? members name =
      if as.isEmpty then none else some (encode as))
    (back : decode (encode as) = .ok as) :
    (named members).readOr name decode [] = .ok as := by
  cases as with
  | nil =>
    rw [readOr, read, Fields.find?, found]
    rfl
  | cons a rest =>
    rw [readOr, read, Fields.find?, found]
    simp only [List.isEmpty_cons, Bool.false_eq_true, if_false]
    rw [back]
    rfl

end ReadingBack

end Fields

end VirtualService
