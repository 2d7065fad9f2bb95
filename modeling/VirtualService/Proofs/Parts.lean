/-
  VirtualService/Proofs/Parts.lean
  ================================
  **Parts of a document, and its text.**

  Whatever a JSONPath query finds stands within the document (`Query.within_of_find`),
  so the scalars of what it finds are scalars of the document.  None of these has the
  text of the document if that is an object or an array, in lower case or as it is
  (`Json.normal_within_ne`).  A text within it is shorter, also in lower case, since a
  character has at most two in its lower-case form and takes an escape of six to be
  written otherwise; the text of any other scalar has no bracket and no brace.
-/
import VirtualService.JsonPath.Select
import VirtualService.Predicate.Normal
import VirtualService.Proofs.Timestamp
import VirtualService.Proofs.Weight

namespace VirtualService

/-! ### What a query finds -/

namespace JsonPath

/-- All scalars of a value are scalars of another, of which it is a part. -/
def PartOf (document part : Json) : Prop := ∀ s ∈ part.scalars, s ∈ document.scalars

section Selection

variable {document root j found : Json}

theorem PartOf.refl (j : Json) : PartOf j j := fun _ mem => mem

theorem PartOf.trans {outer middle inner : Json} (first : PartOf outer middle)
    (second : PartOf middle inner) : PartOf outer inner := fun s mem => first s (second s mem)

theorem partOf_item {items : List Json} (mem : found ∈ items) : PartOf (.arr items) found := by
  intro s within
  exact Json.mem_scalars_arr.mpr ⟨found, mem, within⟩

theorem partOf_member {members : Dict Json} {key : String} (mem : (key, found) ∈ members) :
    PartOf (.obj members) found := by
  intro s within
  exact Json.mem_scalars_obj.mpr ⟨(key, found), mem, within⟩

theorem partOf_child (mem : found ∈ children j) : PartOf j found := by
  cases j with
  | arr items => exact partOf_item mem
  | obj members =>
    obtain ⟨⟨key, value⟩, there, rfl⟩ := List.mem_map.mp mem
    exact partOf_member there
  | _ => cases mem

theorem mem_subtreeItems {items : List Json} :
    found ∈ subtreeItems items ↔ ∃ item ∈ items, found ∈ subtree item := by
  induction items with
  | nil => simp [subtreeItems]
  | cons item items ih => simp [subtreeItems, ih]

theorem mem_subtreeMembers {members : List (String × Json)} :
    found ∈ subtreeMembers members ↔ ∃ member ∈ members, found ∈ subtree member.2 := by
  induction members with
  | nil => simp [subtreeMembers]
  | cons member members ih => simp [subtreeMembers, ih]

theorem partOf_subtree (mem : found ∈ subtree j) : PartOf j found := by
  induction j using Json.induction with
  | scalar j isScalar =>
    have alone : subtree j = [j] := by
      cases j with
      | arr items => cases isScalar
      | obj members => cases isScalar
      | _ => rfl
    rw [alone, List.mem_singleton] at mem
    exact mem ▸ .refl _
  | arr items ih =>
    rw [subtree] at mem
    rcases List.mem_cons.mp mem with rfl | below
    · exact .refl _
    · obtain ⟨item, there, within⟩ := mem_subtreeItems.mp below
      exact (partOf_item there).trans (ih item there within)
  | obj members ih =>
    rw [subtree] at mem
    rcases List.mem_cons.mp mem with rfl | below
    · exact .refl _
    · obtain ⟨⟨key, value⟩, there, within⟩ := mem_subtreeMembers.mp below
      exact (partOf_member there).trans (ih (key, value) there within)

theorem partOf_selector {selector : Selector} (mem : found ∈ Selector.select root selector j) :
    PartOf j found := by
  cases selector with
  | name key =>
    rw [Selector.select, Option.mem_toList] at mem
    cases j with
    | obj members => exact partOf_member (Dict.mem_of_find? mem)
    | _ => cases mem
  | wildcard =>
    rw [Selector.select] at mem
    exact partOf_child mem
  | index i =>
    rw [Selector.select.eq_def] at mem
    dsimp only at mem
    split at mem
    · obtain ⟨p, -, there⟩ := Option.bind_eq_some_iff.mp (Option.mem_toList.mp mem)
      exact partOf_item (List.mem_of_getElem? there)
    · cases mem
  | slice start stop step =>
    rw [Selector.select.eq_def] at mem
    dsimp only at mem
    split at mem
    · obtain ⟨p, -, there⟩ := List.mem_filterMap.mp mem
      exact partOf_item (List.mem_of_getElem? there)
    · cases mem
  | filter condition =>
    rw [Selector.select] at mem
    exact partOf_child (List.mem_of_mem_filter mem)

theorem partOf_selectAny {selectors : List Selector} (mem : found ∈ selectAny root selectors j) :
    PartOf j found := by
  induction selectors with
  | nil =>
    rw [selectAny] at mem
    cases mem
  | cons selector selectors ih =>
    rw [selectAny] at mem
    rcases List.mem_append.mp mem with first | later
    · exact partOf_selector first
    · exact ih later

theorem partOf_segment {segment : Segment} (mem : found ∈ Segment.select root segment j) :
    PartOf j found := by
  cases segment with
  | child selectors =>
    rw [Segment.select] at mem
    exact partOf_selectAny mem
  | descendant selectors =>
    rw [Segment.select] at mem
    obtain ⟨below, inside, taken⟩ := List.mem_flatMap.mp mem
    exact (partOf_subtree inside).trans (partOf_selectAny taken)

theorem partOf_selectAll {segments : List Segment} {started : List Json}
    (within : ∀ start ∈ started, PartOf document start)
    (mem : found ∈ selectAll root segments started) : PartOf document found := by
  induction segments generalizing started with
  | nil =>
    rw [selectAll] at mem
    exact within found mem
  | cons segment segments ih =>
    rw [selectAll] at mem
    refine ih ?_ mem
    intro next reached
    obtain ⟨start, there, taken⟩ := List.mem_flatMap.mp reached
    exact (within start there).trans (partOf_segment taken)

theorem Query.partOf_find {query : Query} (mem : found ∈ query.find document) :
    PartOf document found := by
  obtain ⟨origin, segments⟩ := query
  have started : ∀ start ∈ [document], PartOf document start := by
    intro start only
    rw [List.mem_singleton] at only
    exact only ▸ .refl _
  cases origin <;>
  · rw [Query.find, Query.select] at mem
    exact partOf_selectAll started mem

end Selection

end JsonPath

/-! ### Lower-case forms -/

namespace Lower

/-- How many characters the lower-case form of a character has. -/
def cost (c : Char) : Nat := (char c).length

theorem fair_cost : Json.Fair cost where
  positive c := by
    unfold cost char
    split
    · exact Nat.one_pos
    · split <;> exact Nat.succ_pos _
  few c := by
    unfold cost char
    split
    · exact Nat.succ_le_succ (Nat.zero_le 3)
    · split <;> simp
  ascii c small := by
    rw [cost, char, if_pos small]
    rfl

theorem length_chars (before cs : List Char) :
    (chars before cs).length = Json.total cost cs := by
  induction cs generalizing before with
  | nil => rfl
  | cons c cs ih =>
    rw [Json.total_cons, chars]
    by_cases isSigma : c = 'Σ'
    · rw [if_pos isSigma, List.length_cons, ih, isSigma, Nat.add_comm]
      rfl
    · rw [if_neg isSigma, List.length_append, ih, cost]

/-- Characters of ASCII that have no upper-case letter, bracket or brace among them. -/
def Quiet (c : Char) : Prop := c.toNat ≤ 64 ∨ 97 ≤ c.toNat ∧ c.toNat ≤ 122

instance (c : Char) : Decidable (Quiet c) := inferInstanceAs (Decidable (_ ∨ _))

theorem quiet_of_all {cs : List Char} (all : cs.all (fun c => decide (Quiet c)) = true) :
    ∀ c ∈ cs, Quiet c := by
  intro c mem
  exact of_decide_eq_true (List.all_eq_true.mp all c mem)

theorem char_quiet {c : Char} (quiet : Quiet c) : char c = [c] := by
  unfold Quiet at quiet
  have small : c.toNat < 128 := by omega
  have lower : c.toLower = c := by
    refine dif_neg fun upper => ?_
    have first : 65 ≤ c.toNat := upper.1
    have last : c.toNat ≤ 90 := upper.2
    omega
  rw [char, if_pos small, lower]

theorem chars_quiet {cs : List Char} (quiet : ∀ c ∈ cs, Quiet c) (before : List Char) :
    chars before cs = cs := by
  induction cs generalizing before with
  | nil => rfl
  | cons c cs ih =>
    have notSigma : c ≠ 'Σ' := by
      rintro rfl
      exact absurd (quiet _ List.mem_cons_self) (by decide)
    rw [chars, if_neg notSigma, char_quiet (quiet c List.mem_cons_self),
      ih fun d mem => quiet d (List.mem_cons_of_mem c mem)]
    rfl

theorem mem_chars {c : Char} (notSigma : c ≠ 'Σ') (own : char c = [c]) {cs : List Char}
    (mem : c ∈ cs) (before : List Char) : c ∈ chars before cs := by
  induction cs generalizing before with
  | nil => cases mem
  | cons d cs ih =>
    rw [chars]
    rcases List.mem_cons.mp mem with rfl | later
    · rw [if_neg notSigma, own]
      exact List.mem_cons_self
    · have inner := ih later (d :: before)
      split
      · exact List.mem_cons_of_mem _ inner
      · exact List.mem_append_right _ inner

end Lower

/-! ### The texts of numbers -/

section Numbers

open Lower

theorem Digits.quiet_of_isDecimal {c : Char} (digit : isDecimal c = true) : Quiet c := by
  rw [isDecimal, decimal?] at digit
  split at digit
  · next range =>
    have upper : c.toNat ≤ 57 := range.2
    exact .inl (by omega)
  · cases digit

theorem Digits.quiet_ofNat (n : Nat) : ∀ c ∈ ofNat n, Quiet c := by
  intro c mem
  exact quiet_of_isDecimal (isDecimal_reversed _ _ c (List.mem_reverse.mp mem))

theorem Digits.quiet_ofInt (i : Int) : ∀ c ∈ ofInt i, Quiet c := by
  intro c mem
  rw [ofInt] at mem
  split at mem
  · rcases List.mem_cons.mp mem with rfl | mem
    · decide
    · exact quiet_ofNat _ c mem
  · exact quiet_ofNat _ c mem

theorem Digits.quiet_zeros (n : Nat) : ∀ c ∈ List.replicate n '0', Quiet c := by
  intro c mem
  rw [List.eq_of_mem_replicate mem]
  decide

theorem Digits.quiet_positional (d : Shortest.Decimal) :
    ∀ c ∈ positional ['.', '0'] d, Quiet c := by
  have digits := quiet_ofNat d.digits
  rw [positional]
  dsimp only
  split
  · refine List.forall_mem_append.mpr ⟨List.forall_mem_append.mpr ⟨digits, quiet_zeros _⟩, ?_⟩
    exact quiet_of_all rfl
  · split
    · refine List.forall_mem_append.mpr ⟨fun c mem => digits c (List.mem_of_mem_take mem), ?_⟩
      refine List.forall_mem_cons.mpr ⟨by decide, fun c mem => digits c (List.mem_of_mem_drop mem)⟩
    · refine List.forall_mem_cons.mpr ⟨by decide, List.forall_mem_cons.mpr ⟨by decide, ?_⟩⟩
      exact List.forall_mem_append.mpr ⟨quiet_zeros _, digits⟩

theorem Digits.quiet_scientific (d : Shortest.Decimal) : ∀ c ∈ scientific d, Quiet c := by
  have digits := quiet_ofNat d.digits
  rw [scientific]
  refine List.forall_mem_append.mpr ⟨?_, List.forall_mem_cons.mpr ⟨by decide, ?_⟩⟩
  · split
    · nofun
    · next single =>
      rwa [single] at digits
    · next more =>
      rw [more] at digits
      obtain ⟨first, rest⟩ := List.forall_mem_cons.mp digits
      exact List.forall_mem_cons.mpr ⟨first, List.forall_mem_cons.mpr ⟨by decide, rest⟩⟩
  · refine List.forall_mem_cons.mpr ⟨?_, quiet_ofNat _⟩
    split <;> decide

theorem Number.quiet_chars (n : Number) : ∀ c ∈ n.chars, Quiet c := by
  cases n with
  | int i => exact Digits.quiet_ofInt i
  | float x =>
    have magnitude : ∀ c ∈ (if x.isZero then ['0', '.', '0']
        else decimalText (Shortest.ofDouble .toEven x)), Quiet c := by
      split
      · exact quiet_of_all rfl
      · rw [decimalText]
        split
        · exact Digits.quiet_positional _
        · exact Digits.quiet_scientific _
    rw [chars]
    split
    · rw [floatText]
      split
      · exact List.forall_mem_cons.mpr ⟨by decide, magnitude⟩
      · exact magnitude
    · exact quiet_of_all rfl

end Numbers

/-! ### Scalars within a document -/

namespace Json

open Lower

theorem isStructured_of_mem_scalars {j part : Json} (mem : part ∈ j.scalars) :
    part.isStructured = false := by
  induction j using Json.induction with
  | scalar j isScalar =>
    rw [scalars_scalar isScalar, List.mem_singleton] at mem
    rwa [mem]
  | arr items ih =>
    obtain ⟨item, memItem, within⟩ := mem_scalars_arr.mp mem
    exact ih item memItem within
  | obj members ih =>
    obtain ⟨member, memMember, within⟩ := mem_scalars_obj.mp mem
    exact ih member memMember within

theorem mem_of_skipBlanks {c : Char} {cs rest : List Char} (lead : skipBlanks cs = c :: rest) :
    c ∈ cs := by
  have suffix : skipBlanks cs <:+ cs := List.dropWhile_suffix _
  rw [lead] at suffix
  exact suffix.subset List.mem_cons_self

/-- The text of an object or an array has the brace or the bracket with which it begins. -/
theorem bracket_of_ofText {text : String} {document : Json} (read : ofText? text = some document)
    (structured : document.isStructured = true) : '[' ∈ text.toList ∨ '\x7b' ∈ text.toList := by
  rw [ofText?, ofChars?] at read
  split at read
  · cases read
  · next found =>
    split at read
    · cases read
      rw [value?.eq_def] at found
      dsimp only at found
      split at found
      · cases found
        cases structured
      · cases found
        cases structured
      · cases found
        cases structured
      · obtain ⟨⟨s, rest⟩, -, same⟩ := Option.map_eq_some_iff.mp found
        cases same
        cases structured
      · next lead => exact .inl (mem_of_skipBlanks lead)
      · next lead => exact .inr (mem_of_skipBlanks lead)
      · obtain ⟨⟨n, rest⟩, -, same⟩ := Option.map_eq_some_iff.mp found
        cases same
        cases structured
    · cases read

theorem quiet_plainText {part : Json} (scalar : part.isStructured = false)
    (noText : ∀ s, part ≠ .str s) : ∀ c ∈ part.plainText.toList, Quiet c := by
  cases part with
  | arr items => cases scalar
  | obj members => cases scalar
  | str s => exact absurd rfl (noText s)
  | null => exact quiet_of_all rfl
  | bool b => cases b <;> exact quiet_of_all rfl
  | num n =>
    have written : (Json.num n).plainText.toList = n.chars := by
      rw [plainText, compact, printed, List.append_nil, String.toList_ofList]
      nofun
    rw [written]
    exact n.quiet_chars

/-- No scalar of an object or array has the text that the object or array was read from, not even in
    lower case. -/
theorem lowered_within_ne {text : String} {document part : Json}
    (read : ofText? text = some document) (structured : document.isStructured = true)
    (mem : part ∈ document.scalars) : lowered part.plainText ≠ lowered text := by
  intro same
  have forms : chars [] part.plainText.toList = chars [] text.toList := String.ofList_injective same
  by_cases isText : ∃ s, part = .str s
  · -- a text is written with more than it has
    obtain ⟨s, rfl⟩ := isText
    have shorter := fair_cost.text_within read mem
    have lengths := congrArg List.length forms
    rw [length_chars, length_chars, plainText] at lengths
    omega
  · have quiet := quiet_plainText (isStructured_of_mem_scalars mem) (not_exists.mp isText)
    rw [chars_quiet quiet] at forms
    rcases bracket_of_ofText read structured with bracket | brace
    · have within := mem_chars (by decide) (by decide) bracket []
      exact absurd (quiet _ (forms ▸ within)) (by decide)
    · have within := mem_chars (by decide) (by decide) brace []
      exact absurd (quiet _ (forms ▸ within)) (by decide)

/-- So in whatever way case counts, if nothing is excluded. -/
theorem normal_within_ne {n : Normalizer} (nothing : n.excluded = none) {text : String}
    {document part : Json} (read : ofText? text = some document)
    (structured : document.isStructured = true) (mem : part ∈ document.scalars) :
    n.normal part.plainText ≠ n.normal text := by
  have strip (t : String) : n.strip t = t := by rw [Normalizer.strip, nothing]
  have differ := lowered_within_ne read structured mem
  rw [Normalizer.normal, Normalizer.normal, strip, strip]
  split
  · exact fun same => differ (congrArg lowered same)
  · exact differ

end Json

end VirtualService
