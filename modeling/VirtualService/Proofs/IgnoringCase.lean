/-
  VirtualService/Proofs/IgnoringCase.lean
  =======================================
  **Whether ignoring case can lose a match.**

  Ignoring case means that both texts are put in lower case and then compared.  The
  lower-case form of a character is its own affair but for the capital sigma, which
  has another form at the end of a word.  So the form of a part of a text (`within`)
  may differ from the form of that part alone, and a part that is found as written
  may no longer be found in lower case (`CompiledLeaf.final_sigma_lost`).

  A text leaves the form of a sigma open at its front if nothing before the sigma
  bears on case and no cased character follows, and at its back if nothing after it
  bears on case and a cased character precedes (`opensFront`, `opensBack`).  A text
  that leaves none open to the sides on which more may stand has one form wherever it
  stands (`within_settled`), and nothing is lost.  Any other loses a match: one cased
  letter beside it changes how often a form of sigma occurs (`exists_lost`).
-/
import VirtualService.Proofs.Canonical
import VirtualService.Proofs.Strength

namespace VirtualService

/-! ### Parts of a text in lower case -/

namespace Lower

/-- The form of a capital sigma, by what stands before it, the last character first, and after. -/
def sigma (before after : List Char) : Char :=
  if casedNext before && !casedNext after then 'ς' else 'σ'

/-- The lower-case form of characters that stand between others. -/
def within (before after : List Char) : List Char → List Char
  | [] => []
  | c :: rest =>
      if c = 'Σ' then sigma before (rest ++ after) :: within (c :: before) after rest
      else char c ++ within (c :: before) after rest

/-- None of the characters bears on case. -/
def silent (cs : List Char) : Bool := cs.all Property.caseIgnorable.has

/-- Some sigma has the form that it has in the middle of a word for want of a cased character before
    it. -/
def opensFront (before : List Char) : List Char → Bool
  | [] => false
  | c :: rest => (c == 'Σ' && silent before && !casedNext rest) || opensFront (c :: before) rest

/-- Some sigma has the form that it has at the end of a word for want of a cased character after
    it. -/
def opensBack (before : List Char) : List Char → Bool
  | [] => false
  | c :: rest => (c == 'Σ' && silent rest && casedNext before) || opensBack (c :: before) rest

/-- Without a capital sigma nothing is left open. -/
theorem opens_of_not_mem {cs : List Char} (none : 'Σ' ∉ cs) (before : List Char) :
    opensFront before cs = false ∧ opensBack before cs = false := by
  induction cs generalizing before with
  | nil => exact ⟨rfl, rfl⟩
  | cons c rest ih =>
    obtain ⟨other, later⟩ := not_or.mp (mt List.mem_cons.mpr none)
    have differ : (c == 'Σ') = false := by simpa using Ne.symm other
    simpa [opensFront, opensBack, differ] using ih later (c :: before)

theorem chars_append (before cs after : List Char) :
    chars before (cs ++ after) = within before after cs ++ chars (cs.reverse ++ before) after := by
  induction cs generalizing before with
  | nil => rfl
  | cons c rest ih =>
    by_cases isSigma : c = 'Σ'
    · simp [chars, within, sigma, isSigma, ih]
    · simp [chars, within, isSigma, ih]

theorem chars_eq_within (before cs : List Char) : chars before cs = within before [] cs := by
  have whole := chars_append before cs []
  rwa [List.append_nil, chars, List.append_nil] at whole

theorem casedNext_append (cs more : List Char) :
    casedNext (cs ++ more) = if silent cs then casedNext more else casedNext cs := by
  induction cs with
  | nil => rfl
  | cons c rest ih =>
    by_cases ignorable : Property.caseIgnorable.has c = true
    · simpa [casedNext, silent, ignorable] using ih
    · simp [casedNext, silent, ignorable]

theorem casedNext_silent {cs : List Char} (quiet : silent cs = true) : casedNext cs = false := by
  have alone := casedNext_append cs []
  rw [List.append_nil, if_pos quiet] at alone
  exact alone

/-- What stands beyond does not change the form of a sigma that is not open to it. -/
theorem sigma_settled {before after front back : List Char}
    (settledFront : (silent before && !casedNext after) = false ∨ front = [])
    (settledBack : (silent after && casedNext before) = false ∨ back = []) :
    sigma (before ++ front) (after ++ back) = sigma before after := by
  rw [sigma, sigma, casedNext_append, casedNext_append]
  by_cases quietBefore : silent before = true
  · have none := casedNext_silent quietBefore
    rcases settledFront with cased | rfl
    · -- a cased character follows, which makes it the form within a word
      rw [quietBefore, Bool.true_and, Bool.not_eq_false'] at cased
      have notSilent : silent after = false := by
        by_cases quiet : silent after = true
        · simp [casedNext_silent quiet] at cased
        · simpa using quiet
      simp [notSilent, cased]
    · simp [quietBefore, none, casedNext]
  · by_cases quietAfter : silent after = true
    · have none := casedNext_silent quietAfter
      rcases settledBack with uncased | rfl
      · rw [quietAfter, Bool.true_and] at uncased
        simp [quietBefore, uncased]
      · simp [quietBefore, none, casedNext]
    · simp [quietBefore, quietAfter]

/-- A text that leaves no sigma open to a side on which something stands has the form that it has
    alone. -/
theorem within_settled {before front back cs : List Char}
    (settledFront : opensFront before cs = false ∨ front = [])
    (settledBack : opensBack before cs = false ∨ back = []) :
    within (before ++ front) back cs = within before [] cs := by
  induction cs generalizing before with
  | nil => rfl
  | cons c rest ih =>
    simp only [opensFront, opensBack, Bool.or_eq_false_iff] at settledFront settledBack
    have later := @ih (c :: before) (settledFront.imp And.right id)
      (settledBack.imp And.right id)
    rw [List.cons_append] at later
    by_cases isSigma : c = 'Σ'
    · subst isSigma
      have own : sigma (before ++ front) (rest ++ back) = sigma before rest := by
        apply sigma_settled
        · exact settledFront.imp (fun closed => by simpa using closed.1) id
        · exact settledBack.imp (fun closed => by simpa using closed.1) id
      simp [within, own, later]
    · simp [within, isSigma, later]

/-! ### A letter beside a text -/

/-- The letter `a` is a cased one. -/
theorem casedNext_a (rest : List Char) : casedNext ('a' :: rest) = true := by
  -- the rewriting spares the kernel the decoding of the written sets
  have bears : Property.caseIgnorable.has 'a' = false := by
    rw [Property.caseIgnorable, CharSet.ofLines]
    simp only [List.flatMap_cons]
    repeat rw [String.toList_ofList]
    decide +kernel
  have cased : Property.cased.has 'a' = true := by
    rw [Property.cased, CharSet.ofLines]
    simp only [List.flatMap_cons]
    repeat rw [String.toList_ofList]
    decide +kernel
  simp [casedNext, bears, cased]

theorem silent_a (rest : List Char) : silent ('a' :: rest) = false := by
  rw [Bool.eq_false_iff]
  intro quiet
  have none := casedNext_silent quiet
  rw [casedNext_a] at none
  cases none

theorem char_a : char 'a' = ['a'] := by decide +kernel

theorem chars_a_cons (cs : List Char) : chars [] ('a' :: cs) = 'a' :: within ['a'] [] cs := by
  rw [chars, if_neg (by decide), char_a, chars_eq_within, List.singleton_append]

theorem chars_append_a (cs : List Char) : chars [] (cs ++ ['a']) = within [] ['a'] cs ++ ['a'] := by
  rw [chars_append, chars, if_neg (by decide), char_a, chars, List.append_nil]

theorem sigma_after_a (before after : List Char) :
    sigma (before ++ ['a']) after =
      if silent before && !casedNext after then 'ς' else sigma before after := by
  rw [sigma, sigma, casedNext_append, casedNext_a]
  by_cases quiet : silent before = true
  · simp [quiet, casedNext_silent quiet]
  · simp [quiet]

theorem sigma_before_a (before after : List Char) :
    sigma before (after ++ ['a']) =
      if silent after && casedNext before then 'σ' else sigma before after := by
  rw [sigma, sigma, casedNext_append, casedNext_a]
  by_cases quiet : silent after = true
  · by_cases cased : casedNext before = true
    · simp [quiet, cased]
    · simp [quiet, cased]
  · simp [quiet]

/-- A cased letter before a text makes no more of its sigmas those within a word, and fewer if the text
    leaves the form of one open at its front. -/
theorem count_after_a (before cs : List Char) :
    (within (before ++ ['a']) [] cs).count 'σ' ≤ (within before [] cs).count 'σ' ∧
      (opensFront before cs = true →
        (within (before ++ ['a']) [] cs).count 'σ' < (within before [] cs).count 'σ') := by
  induction cs generalizing before with
  | nil => simp [within, opensFront]
  | cons c rest ih =>
    obtain ⟨fewer, less⟩ := ih (c :: before)
    rw [List.cons_append] at fewer less
    by_cases isSigma : c = 'Σ'
    · subst isSigma
      simp only [within, opensFront, if_pos, List.append_nil, sigma_after_a]
      by_cases here : (silent before && !casedNext rest) = true
      · have form : sigma before rest = 'σ' := by
          rw [Bool.and_eq_true] at here
          simp [sigma, casedNext_silent here.1]
        rw [if_pos here, form, List.count_cons_self, List.count_cons_of_ne (by decide)]
        exact ⟨Nat.le_succ_of_le fewer, fun _ => Nat.lt_succ_of_le fewer⟩
      · simpa [here, List.count_cons] using ⟨fewer, less⟩
    · simpa [within, opensFront, isSigma, List.count_append] using ⟨fewer, less⟩

/-- A cased letter after a text makes no more of its sigmas those at the end of a word, and fewer if the
    text leaves the form of one open at its back. -/
theorem count_before_a (before cs : List Char) :
    (within before ['a'] cs).count 'ς' ≤ (within before [] cs).count 'ς' ∧
      (opensBack before cs = true →
        (within before ['a'] cs).count 'ς' < (within before [] cs).count 'ς') := by
  induction cs generalizing before with
  | nil => simp [within, opensBack]
  | cons c rest ih =>
    obtain ⟨fewer, less⟩ := ih (c :: before)
    by_cases isSigma : c = 'Σ'
    · subst isSigma
      simp only [within, opensBack, if_pos, List.append_nil, sigma_before_a]
      by_cases here : (silent rest && casedNext before) = true
      · have form : sigma before rest = 'ς' := by
          rw [Bool.and_eq_true] at here
          simp [sigma, casedNext_silent here.1, here.2]
        rw [if_pos here, form, List.count_cons_self, List.count_cons_of_ne (by decide)]
        exact ⟨Nat.le_succ_of_le fewer, fun _ => Nat.lt_succ_of_le fewer⟩
      · simpa [here, List.count_cons] using ⟨fewer, less⟩
    · simpa [within, opensBack, isSigma, List.count_append] using ⟨fewer, less⟩

end Lower

/-! ### Relations of texts -/

namespace TextRelation

/-- Whether more may stand before what is expected. -/
def openFront : TextRelation → Bool
  | containing | ending => true
  | equal | starting => false

/-- Whether more may stand after what is expected. -/
def openBack : TextRelation → Bool
  | containing | starting => true
  | equal | ending => false

/-- An expected text leaves the form of a capital sigma open to a side on which more may stand. -/
def leavesOpen (r : TextRelation) (expected : String) : Bool :=
  (r.openFront && Lower.opensFront [] expected.toList) ||
    (r.openBack && Lower.opensBack [] expected.toList)

theorem leavesOpen_of_not_mem {r : TextRelation} {expected : String}
    (none : 'Σ' ∉ expected.toList) : r.leavesOpen expected = false := by
  obtain ⟨front, back⟩ := Lower.opens_of_not_mem none []
  simp [leavesOpen, front, back]

theorem holds_iff {r : TextRelation} {actual expected : String} :
    r.holds actual expected = true ↔ ∃ front back,
      actual.toList = front ++ expected.toList ++ back ∧
      (r.openFront = true ∨ front = []) ∧ (r.openBack = true ∨ back = []) := by
  cases r with
  | equal =>
    simp [holds, openFront, openBack, String.toList_inj]
  | containing =>
    simp only [holds, openFront, openBack, Split.contains_iff, List.IsInfix]
    simp [eq_comm]
  | starting =>
    simp only [holds, openFront, openBack, List.isPrefixOf_iff_prefix, List.IsPrefix]
    simp [eq_comm]
  | ending =>
    simp only [holds, openFront, openBack, List.isSuffixOf_iff_suffix, List.IsSuffix]
    simp [eq_comm]

/-- A text that leaves nothing open is found in lower case wherever it is found as written. -/
theorem holds_lowered {r : TextRelation} {actual expected : String}
    (settled : r.leavesOpen expected = false) (holds : r.holds actual expected = true) :
    r.holds (lowered actual) (lowered expected) = true := by
  obtain ⟨front, back, text, atFront, atBack⟩ := holds_iff.mp holds
  simp only [leavesOpen, Bool.or_eq_false_iff, Bool.and_eq_false_iff] at settled
  have settledFront : Lower.opensFront [] expected.toList = false ∨ front.reverse = [] := by
    rcases atFront with isOpen | rfl
    · exact .inl (settled.1.resolve_left (by simp [isOpen]))
    · exact .inr rfl
  have settledBack : Lower.opensBack [] expected.toList = false ∨ back = [] := by
    rcases atBack with isOpen | rfl
    · exact .inl (settled.2.resolve_left (by simp [isOpen]))
    · exact .inr rfl
  have alone : Lower.within front.reverse back expected.toList =
      Lower.within [] [] expected.toList :=
    @Lower.within_settled [] front.reverse back expected.toList settledFront settledBack
  refine holds_iff.mpr ⟨Lower.within [] (expected.toList ++ back) front,
    Lower.chars (expected.toList.reverse ++ front.reverse) back, ?_, ?_, ?_⟩
  · rw [lowered, lowered, String.toList_ofList, String.toList_ofList, text, List.append_assoc,
      Lower.chars_append, List.append_nil, Lower.chars_append, alone, Lower.chars_eq_within [],
      List.append_assoc]
  · rcases atFront with isOpen | rfl
    · exact .inl isOpen
    · exact .inr rfl
  · rcases atBack with isOpen | rfl
    · exact .inl isOpen
    · exact .inr rfl

theorem count_le_of_holds {r : TextRelation} {actual expected : String}
    (holds : r.holds actual expected = true) (c : Char) :
    expected.toList.count c ≤ actual.toList.count c := by
  obtain ⟨front, back, text, -, -⟩ := holds_iff.mp holds
  rw [text, List.count_append, List.count_append]
  omega

/-- A text that leaves something open is found as written somewhere where it is not found in lower
    case: beside a cased letter. -/
theorem exists_lost {r : TextRelation} {expected : String} (isOpen : r.leavesOpen expected = true) :
    ∃ actual, r.holds actual expected = true ∧
      r.holds (lowered actual) (lowered expected) = false := by
  rw [leavesOpen, Bool.or_eq_true, Bool.and_eq_true, Bool.and_eq_true] at isOpen
  rcases isOpen with ⟨toFront, front⟩ | ⟨toBack, back⟩
  · refine ⟨String.ofList ('a' :: expected.toList), ?_, ?_⟩
    · exact holds_iff.mpr ⟨['a'], [], by simp, .inl toFront, .inr rfl⟩
    · rw [Bool.eq_false_iff]
      intro found
      have fewer := count_le_of_holds found 'σ'
      have less := (Lower.count_after_a [] expected.toList).2 front
      rw [lowered, lowered, String.toList_ofList, String.toList_ofList, String.toList_ofList,
        Lower.chars_a_cons, Lower.chars_eq_within, List.count_cons_of_ne (by decide)] at fewer
      rw [List.nil_append] at less
      omega
  · refine ⟨String.ofList (expected.toList ++ ['a']), ?_, ?_⟩
    · exact holds_iff.mpr ⟨[], ['a'], by simp, .inr rfl, .inl toBack⟩
    · rw [Bool.eq_false_iff]
      intro found
      have fewer := count_le_of_holds found 'ς'
      have less := (Lower.count_before_a [] expected.toList).2 back
      rw [lowered, lowered, String.toList_ofList, String.toList_ofList, String.toList_ofList,
        Lower.chars_append_a, Lower.chars_eq_within, List.count_append,
        List.count_eq_zero_of_not_mem (by decide : 'ς' ∉ ['a'])] at fewer
      omega

/-- Exactly the texts that leave nothing open are found in lower case wherever they are found. -/
theorem leavesOpen_eq_false_iff {r : TextRelation} {expected : String} :
    r.leavesOpen expected = false ↔ ∀ actual, r.holds actual expected = true →
      r.holds (lowered actual) (lowered expected) = true := by
  constructor
  · intro settled actual
    exact holds_lowered settled
  · intro never
    by_contra isOpen
    obtain ⟨actual, found, lost⟩ := exists_lost (Bool.eq_true_of_not_eq_false isOpen)
    simp [never actual found] at lost

end TextRelation

/-! ### Values -/

namespace Comparison

variable {r : TextRelation} {m : KeyMatch}

/-- A template whose texts leave nothing open is satisfied in lower case by whatever satisfies it as
    written. -/
theorem satisfies_lowered {e j : Json}
    (settled : ∀ part ∈ e.scalars, r.leavesOpen part.plainText = false)
    (holds : satisfies ⟨r, ⟨true, none⟩, m⟩ (Expected.wanted ⟨true, none⟩ e) j = true) :
    satisfies ⟨r, ⟨false, none⟩, m⟩ (Expected.wanted ⟨false, none⟩ e) j = true := by
  induction e using Json.induction generalizing j with
  | scalar e scalar =>
    rw [wanted_scalar scalar] at holds ⊢
    obtain ⟨found, mem, own⟩ := satisfies_scalar_iff.mp holds
    rw [part, Bool.and_eq_true] at own
    refine satisfies_scalar_iff.mpr ⟨found, mem, ?_⟩
    rw [part, Bool.and_eq_true]
    refine ⟨own.1, ?_⟩
    have text : r.holds found.plainText e.plainText = true := own.2
    apply TextRelation.holds_lowered _ text
    exact settled e (by simp [Json.scalars_scalar scalar])
  | arr parts ih =>
    rw [Expected.wanted, Expected.wantedItems_eq_map] at holds ⊢
    obtain ⟨items, entered, each⟩ := satisfies_items_iff.mp holds
    refine satisfies_items_iff.mpr ⟨items, entered, fun child mem => ?_⟩
    obtain ⟨part, memPart, rfl⟩ := List.mem_map.mp mem
    obtain ⟨item, memItem, own⟩ := each _ (List.mem_map_of_mem memPart)
    refine ⟨item, memItem, ih part memPart ?_ own⟩
    intro scalar within
    exact settled scalar (Json.mem_scalars_arr.mpr ⟨part, memPart, within⟩)
  | obj entries ih =>
    rw [Expected.wanted, Expected.wantedMembers_eq_map] at holds ⊢
    obtain ⟨members, seen, each⟩ := satisfies_members_iff.mp holds
    refine satisfies_members_iff.mpr ⟨members, seen, fun child mem => ?_⟩
    obtain ⟨entry, memEntry, rfl⟩ := List.mem_map.mp mem
    obtain ⟨value, found, own⟩ := each _ (List.mem_map_of_mem memEntry)
    refine ⟨value, found, ih entry memEntry ?_ own⟩
    intro scalar within
    exact settled scalar (Json.mem_scalars_obj.mpr ⟨entry, memEntry, within⟩)

end Comparison

/-! ### Leaves -/

namespace CompiledLeaf

variable {o : PredicateOptions} {operator : Operator} {fields : Dict Json} {request : Request}
  {kept : Readings}

/-- Parameters that exclude nothing and say how keys are compared compile for either treatment of
    case if they do for one, and to the same but for it. -/
theorem compile_caseSensitive {given : Bool} {c : CompiledOptions} (sensitive : Bool)
    (keysGiven : o.keyCaseSensitive.isSome) (plain : o.exceptPattern = "")
    (ok : PredicateOptions.compile { o with caseSensitive := given } = .ok c) :
    PredicateOptions.compile { o with caseSensitive := sensitive } =
      .ok ⟨o.keyMatch, ⟨sensitive, none⟩, c.selector⟩ := by
  obtain ⟨excluded, selector, -, second, rfl⟩ := PredicateOptions.compile_eq_ok.mp ok
  refine PredicateOptions.compile_eq_ok.mpr ⟨none, selector, ?_, second, ?_⟩
  · simp [PredicateOptions.excluded, plain]
  · obtain ⟨keys, chosen⟩ := Option.isSome_iff_exists.mp keysGiven
    simp [PredicateOptions.keyMatch, chosen]

theorem evaluate_lowered {m : KeyMatch} {selector : Option CompiledSelector}
    (template : operator.TakesTemplate)
    (settled : ∀ part ∈ (Json.obj fields).scalars,
      (TextRelation.ofOperator operator).leavesOpen part.plainText = false)
    (holds : ((comparing operator fields ⟨m, ⟨true, none⟩, selector⟩).evaluate request kept).1 =
      true) :
    ((comparing operator fields ⟨m, ⟨false, none⟩, selector⟩).evaluate request kept).1 = true := by
  refine evaluateFields_mono (comparing operator fields ⟨m, ⟨true, none⟩, selector⟩)
    (comparing operator fields ⟨m, ⟨false, none⟩, selector⟩) rfl rfl ?_ holds
  change List.Forall₂ _ (Expected.wantedMembers _ fields) (Expected.wantedMembers _ fields)
  rw [Expected.wantedMembers_eq_map, Expected.wantedMembers_eq_map, List.forall₂_map_left_iff,
    List.forall₂_map_right_iff, List.forall₂_same]
  intro field mem
  refine ⟨rfl, by rw [Expected.wanted_isStructured, Expected.wanted_isStructured], ?_⟩
  intro value accepted
  rw [accepts_template template] at accepted ⊢
  cases value with
  | none => cases accepted
  | some j =>
    apply Comparison.satisfies_lowered _ accepted
    intro part within
    exact settled part (Json.mem_scalars_obj.mpr ⟨field, mem, within⟩)

/-- Parameters by which keys are compared as they are. -/
def keysAsTheyAre (sensitive : Bool) : PredicateOptions :=
  { PredicateOptions.default with caseSensitive := sensitive, keyCaseSensitive := some true }

/-- A field expected to relate to a text does so if case counts, and does not otherwise. -/
def LosesMatch (operator : Operator) (name expected actual : String) : Prop :=
  ∃ exact folded,
    CompiledLeaf.compile operator [(name, .str expected)] (keysAsTheyAre true) = .ok exact ∧
    CompiledLeaf.compile operator [(name, .str expected)] (keysAsTheyAre false) = .ok folded ∧
    (exact.evaluate [(name, .str actual)] []).1 = true ∧
    (folded.evaluate [(name, .str actual)] []).1 = false

theorem losesMatch_iff (template : operator.TakesTemplate) (texts : operator.ComparesTexts)
    {name expected actual : String} :
    LosesMatch operator name expected actual ↔
      (TextRelation.ofOperator operator).holds actual expected = true ∧
      (TextRelation.ofOperator operator).holds (lowered actual) (lowered expected) = false := by
  have compiles : ∀ sensitive,
      CompiledLeaf.compile operator [(name, .str expected)] (keysAsTheyAre sensitive) =
        .ok (comparing operator [(name, .str expected)] ⟨.exact, ⟨sensitive, none⟩, none⟩) := by
    intro sensitive
    exact compile_comparing texts rfl
  have evaluated : ∀ n : Normalizer, ((comparing operator [(name, .str expected)]
      ⟨.exact, n, none⟩).evaluate [(name, .str actual)] []).1 =
        (TextRelation.ofOperator operator).holds (n.normal actual) (n.normal expected) := by
    intro n
    rw [evaluate]
    change ((comparing operator _ _).evaluateFields _
      [(name, .scalar (.text (n.normal expected)))] []).1 = _
    have seen : (comparing operator [(name, .str expected)] ⟨.exact, n, none⟩).actual
        [(name, .str actual)] name (.scalar (.text (n.normal expected))) [] =
          (some (.str actual), []) := by
      simp [CompiledLeaf.actual, comparing, KeyMatch.find?_exact, Expected.isStructured]
    have own : Comparison.satisfies ⟨TextRelation.ofOperator operator, n, .exact⟩
        (.scalar (.text (n.normal expected))) (.str actual) =
          (TextRelation.ofOperator operator).holds (n.normal actual) (n.normal expected) := by
      simp [Comparison.satisfies, Json.opened, Comparison.part, Comparison.scalar,
        Json.isStructured, Json.plainText]
    rw [evaluateFields, seen]
    simp only [accepts_template template, Option.any_some]
    rw [own]
    cases (TextRelation.ofOperator operator).holds (n.normal actual) (n.normal expected) <;> rfl
  constructor
  · rintro ⟨exact, folded, first, second, found, lost⟩
    rw [compiles] at first second
    cases first
    cases second
    rw [evaluated] at found lost
    exact ⟨found, lost⟩
  · rintro ⟨found, lost⟩
    exact ⟨_, _, compiles true, compiles false, by rwa [evaluated], by rwa [evaluated]⟩

/-- The path ends with a capital sigma and so contains one; in lower case it ends with another form of
    it than that of a sigma on its own. -/
theorem final_sigma_lost : LosesMatch .contains "path" "Σ" "/aΣ" := by
  have actual : lowered "/aΣ" = "/aς" := by
    have slash : Lower.char '/' = ['/'] := by decide +kernel
    have ends : Lower.casedNext [] = false := rfl
    simp [lowered, Lower.chars, Lower.casedNext_a, ends, Lower.char_a, slash]
  have expected : lowered "Σ" = "σ" := by
    simp [lowered, Lower.chars, Lower.casedNext]
  rw [losesMatch_iff (by decide) (by decide), actual, expected]
  decide +kernel

/-- A leaf on texts that excludes nothing and says how keys are compared holds without regard to case
    wherever it holds with regard to it, if no expected text leaves the form of a capital sigma open.
    Any text that leaves one open loses a match. -/
theorem ignoring_case (onTexts : operator ∈ [.equals, .contains, .startsWith, .endsWith])
    (fields : Dict Json) (o : PredicateOptions) (keysGiven : o.keyCaseSensitive.isSome)
    (plain : o.exceptPattern = "") {exact : CompiledLeaf}
    (compiles : CompiledLeaf.compile operator fields { o with caseSensitive := true } = .ok exact) :
    ∃ folded,
      CompiledLeaf.compile operator fields { o with caseSensitive := false } = .ok folded ∧
      ((∀ part ∈ (Json.obj fields).scalars,
          (TextRelation.ofOperator operator).leavesOpen part.plainText = false) →
        ∀ request kept, (exact.evaluate request kept).1 = true →
          (folded.evaluate request kept).1 = true) ∧
      ∀ name text, (TextRelation.ofOperator operator).leavesOpen text = true →
        ∃ actual, LosesMatch operator name text actual := by
  have template := Operator.template_of_mem onTexts
  obtain ⟨c, ok, -⟩ := Except.bind_eq_ok.mp compiles
  have sensitive := compile_caseSensitive true keysGiven plain ok
  have insensitive := compile_caseSensitive false keysGiven plain ok
  rw [compile_comparing template.2 sensitive] at compiles
  cases compiles
  refine ⟨_, compile_comparing template.2 insensitive, ?_, ?_⟩
  · intro settled request kept holds
    exact evaluate_lowered template.1 settled holds
  · intro name text isOpen
    obtain ⟨actual, found, lost⟩ := TextRelation.exists_lost isOpen
    exact ⟨actual, (losesMatch_iff template.1 template.2).mpr ⟨found, lost⟩⟩

/-- A sigma that starts a word is found within another. -/
theorem starting_sigma_kept :
    ∃ exact folded,
      CompiledLeaf.compile .contains [("path", .str "Σa")] (keysAsTheyAre true) = .ok exact ∧
      CompiledLeaf.compile .contains [("path", .str "Σa")] (keysAsTheyAre false) = .ok folded ∧
      (exact.evaluate [("path", .str "/aΣaΣ")] []).1 = true ∧
      (folded.evaluate [("path", .str "/aΣaΣ")] []).1 = true := by
  have holds : ((CompiledLeaf.compile .contains [("path", .str "Σa")] (keysAsTheyAre true)).map
      fun leaf => (leaf.evaluate [("path", .str "/aΣaΣ")] []).1).toOption = some true := by
    decide +kernel
  obtain ⟨exact, compiles⟩ : ∃ exact, CompiledLeaf.compile .contains [("path", .str "Σa")]
      (keysAsTheyAre true) = .ok exact := ⟨_, by rfl⟩
  rw [compiles] at holds
  obtain ⟨folded, compiled, kept, -⟩ :=
    ignoring_case (by decide) [("path", .str "Σa")] (keysAsTheyAre true) rfl rfl compiles
  have settled : ∀ part ∈ (Json.obj [("path", .str "Σa")]).scalars,
      TextRelation.containing.leavesOpen part.plainText = false := by
    intro part mem
    cases List.mem_singleton.mp mem
    simp [TextRelation.leavesOpen, TextRelation.openFront, TextRelation.openBack, Json.plainText,
      Lower.opensFront, Lower.opensBack, Lower.casedNext_a, Lower.silent_a]
  exact ⟨exact, folded, compiles, compiled, Option.some.inj holds,
    kept settled _ _ (Option.some.inj holds)⟩

end CompiledLeaf

end VirtualService
