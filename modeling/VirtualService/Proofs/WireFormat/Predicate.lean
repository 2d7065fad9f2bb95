/-
  VirtualService/Proofs/WireFormat/Predicate.lean
  ===============================================
  **Predicates are written so that they read back.**

  Each record of the written format has a predicate `WellFormed` that says what a
  reading can yield, and two lemmas.  `decode_yields`: whatever is read from a
  well-formed value is well-formed.  `decode_encode`: whatever is well-formed is
  read back as it is.  Here they stand for the parameters of predicates and for
  predicates; the predicates inside a predicate are read back by induction.
-/
import VirtualService.Predicate.Codec
import VirtualService.Proofs.Decoding

namespace VirtualService

/-! ### Parameters of predicates -/

theorem Operator.decode_key (o : Operator) : Operator.decode (.str o.key) = .ok o := by
  cases o <;> rfl

theorem Operator.ofKey?_key (o : Operator) : Operator.ofKey? o.key = some o := by
  cases o <;> rfl

namespace XPathSelector

/-- The namespaces are a well-formed object. -/
def WellFormed (s : XPathSelector) : Prop := ∀ ns ∈ s.namespaces, (Json.obj ns).WellFormed

theorem decode_yields : Decoder.Yields decode WellFormed := by
  intro j wf s h
  unfold decode at h
  obtain ⟨fields, opened, h⟩ := Except.bind_eq_ok.mp h
  have fieldsWf := Fields.yields_ofJson _ _ j wf fields opened
  obtain ⟨⟨⟩, -, h⟩ := Except.bind_eq_ok.mp h
  obtain ⟨selector, -, h⟩ := Except.bind_eq_ok.mp h
  obtain ⟨selector, -, h⟩ := Except.bind_eq_ok.mp h
  obtain ⟨ns, readNs, h⟩ := Except.bind_eq_ok.mp h
  obtain ⟨⟨⟩, -, h⟩ := Except.bind_eq_ok.mp h
  cases h
  cases ns with
  | none => simp [WellFormed]
  | some ns => exact Fields.read_yields fieldsWf Decoder.yields_map.option readNs ns rfl

/-- The fields as they are written. -/
def written (s : XPathSelector) : List (String × Option Json) :=
  [("selector", some (.str s.selector)), ("ns", s.namespaces.map Json.obj)]

theorem encode_eq (s : XPathSelector) : s.encode = .ofPairs (Fields.given s.written) := by
  obtain ⟨selector, namespaces⟩ := s
  cases namespaces <;> rfl

theorem decode_encode (s : XPathSelector) : decode s.encode = .ok s := by
  rw [encode_eq, Json.ofPairs]
  have found := Fields.find?_ofList_given s.written (by simp [written])
  generalize Dict.ofList (Fields.given s.written) = members at found
  have selector : (Fields.named members).read "selector" Decoder.text = .ok (some s.selector) :=
    Fields.read_named (o := some s.selector) .str (found _) fun _ _ => rfl
  have ns : (Fields.named members).read "ns" (Decoder.option Decoder.map) =
      .ok (s.namespaces.map some) :=
    Fields.read_option_named .obj (found _) (fun _ _ => rfl) (by simp)
  simp only [decode, Fields.ofJson, Except.ok_bind, selector, ns]
  rw [Fields.firstFault_eq_ok _ (by simp [Fields.fault])]
  obtain ⟨selector, namespaces⟩ := s
  cases namespaces <;> rfl

theorem encode_ne_null (s : XPathSelector) : s.encode ≠ .null := by simp [encode, Json.ofPairs]

theorem same_self {s : XPathSelector} (h : s.WellFormed) : s.same s = true := by
  obtain ⟨selector, namespaces⟩ := s
  cases namespaces with
  | none => simp [same]
  | some ns => simp [same, Json.sameMembers_self ns (h ns rfl).2]

end XPathSelector

namespace PredicateOptions

/-- The namespaces of the XPath selector are a well-formed object. -/
def WellFormed (o : PredicateOptions) : Prop := ∀ s ∈ o.xpath, s.WellFormed

theorem ofFields_wellFormed {fields : Fields} (wf : fields.WellFormed) {o : PredicateOptions}
    (h : ofFields fields = .ok o) : o.WellFormed := by
  unfold ofFields at h
  obtain ⟨⟨⟩, -, h⟩ := Except.bind_eq_ok.mp h
  obtain ⟨caseSensitive, -, h⟩ := Except.bind_eq_ok.mp h
  obtain ⟨keyCaseSensitive, -, h⟩ := Except.bind_eq_ok.mp h
  obtain ⟨exceptPattern, -, h⟩ := Except.bind_eq_ok.mp h
  obtain ⟨jsonPath, -, h⟩ := Except.bind_eq_ok.mp h
  obtain ⟨xpath, readPath, h⟩ := Except.bind_eq_ok.mp h
  cases h
  cases xpath with
  | none => simp [WellFormed]
  | some s => exact Fields.read_yields wf XPathSelector.decode_yields.option readPath s rfl

theorem decode_yields : Decoder.Yields decode WellFormed := by
  intro j wf o h
  unfold decode at h
  obtain ⟨fields, opened, h⟩ := Except.bind_eq_ok.mp h
  obtain ⟨options, readOptions, h⟩ := Except.bind_eq_ok.mp h
  obtain ⟨⟨⟩, -, h⟩ := Except.bind_eq_ok.mp h
  cases h
  exact ofFields_wellFormed (Fields.yields_ofJson _ _ j wf fields opened) readOptions

/-- The fields as they are written; those that have their default are not there. -/
def written (o : PredicateOptions) : List (String × Option Json) :=
  [("caseSensitive", if o.caseSensitive then some (.bool true) else none),
   ("keyCaseSensitive", o.keyCaseSensitive.map Json.bool),
   ("except", if o.exceptPattern.isEmpty then none else some (.str o.exceptPattern)),
   ("jsonpath", o.jsonPath.map encodePath),
   ("xpath", o.xpath.map XPathSelector.encode)]

theorem members_eq (o : PredicateOptions) : o.members = Fields.given o.written := by
  obtain ⟨caseSensitive, keyCaseSensitive, exceptPattern, jsonPath, xpath⟩ := o
  cases caseSensitive <;> cases keyCaseSensitive <;> cases jsonPath <;> cases xpath <;>
    by_cases plain : exceptPattern.isEmpty <;>
    simp [members, written, Fields.given, plain]

theorem decodePath_encodePath (selector : String) :
    decodePath (encodePath selector) = .ok selector := rfl

/-- The parameters are read from any record in which each of them is as it was written. -/
theorem ofFields_written {o : PredicateOptions} {given : Dict Json}
    (found : ∀ name ∈ keys, Dict.find? given name = Fields.valueOf? o.written name) :
    ofFields (.named given) = .ok o := by
  obtain ⟨caseSensitive, keyCaseSensitive, exceptPattern, jsonPath, xpath⟩ := o
  have readCase : (Fields.named given).read "caseSensitive" Decoder.bool =
      .ok (if caseSensitive then some true else none) :=
    Fields.read_named Json.bool
      ((found _ (by simp [keys])).trans (by cases caseSensitive <;> rfl)) fun _ _ => rfl
  have readKeyCase : (Fields.named given).read "keyCaseSensitive" (Decoder.option Decoder.bool) =
      .ok (keyCaseSensitive.map some) :=
    Fields.read_option_named .bool (found _ (by simp [keys])) (fun _ _ => rfl) (by simp)
  have readExcept : (Fields.named given).read "except" Decoder.text =
      .ok (if exceptPattern.isEmpty then none else some exceptPattern) :=
    Fields.read_named Json.str
      ((found _ (by simp [keys])).trans (by
        show (if exceptPattern.isEmpty then none else some (Json.str exceptPattern)) = _
        cases exceptPattern.isEmpty <;> rfl)) fun _ _ => rfl
  have readPath : (Fields.named given).read "jsonpath" (Decoder.option decodePath) =
      .ok (jsonPath.map some) :=
    Fields.read_option_named encodePath (found _ (by simp [keys]))
      (fun selector _ => decodePath_encodePath selector) (by simp [encodePath])
  have readXPath : (Fields.named given).read "xpath" (Decoder.option XPathSelector.decode) =
      .ok (xpath.map some) :=
    Fields.read_option_named XPathSelector.encode (found _ (by simp [keys]))
      (fun s _ => XPathSelector.decode_encode s) fun s _ => s.encode_ne_null
  simp only [ofFields, readCase, readKeyCase, readExcept, readPath, readXPath]
  rw [Fields.firstFault_eq_ok _ (by simp [Fields.fault])]
  simp only [Except.ok_bind]
  have pattern :
      (if exceptPattern.isEmpty then none else some exceptPattern).getD "" = exceptPattern := by
    by_cases plain : exceptPattern.isEmpty
    · simp [String.isEmpty_iff.mp plain]
    · simp [plain]
  rw [pattern]
  cases caseSensitive <;> cases keyCaseSensitive <;> cases jsonPath <;> cases xpath <;> rfl

theorem same_self {o : PredicateOptions} (h : o.WellFormed) : o.same o = true := by
  obtain ⟨caseSensitive, keyCaseSensitive, exceptPattern, jsonPath, xpath⟩ := o
  cases xpath with
  | none => simp [same]
  | some s => simp [same, XPathSelector.same_self (h s rfl)]

end PredicateOptions

/-! ### Predicates -/

namespace Predicate

mutual

/-- The fields of every leaf are a well-formed object, and so are its namespaces. -/
def WellFormed : Predicate → Prop
  | .leaf _ fields options => (Json.obj fields).WellFormed ∧ options.WellFormed
  | .allOf children => WellFormedAll children
  | .anyOf children => WellFormedAll children
  | .negation child => WellFormed child
  | .script _ => True

def WellFormedAll : List Predicate → Prop
  | [] => True
  | p :: ps => WellFormed p ∧ WellFormedAll ps

end

/-- The readings of a member yield well-formed predicates. -/
structure Operand.WellFormed (operand : Operand) : Prop where
  body : operand.body.WellFormed
  asPredicate : ∀ p, operand.asPredicate () = .ok p → p.WellFormed
  asArray : ∀ ps, operand.asArray () = some (.ok ps) → WellFormedAll ps

theorem leafOf_wellFormed {key : String} {body : Json} {given : Dict Json} {p : Predicate}
    (hb : body.WellFormed) (hg : (Json.obj given).WellFormed)
    (h : leafOf key body given = .ok p) : p.WellFormed := by
  unfold leafOf at h
  split at h
  · cases h
  · split at h
    · next options read =>
      cases h
      exact ⟨hb, PredicateOptions.decode_yields _ hg options read⟩
    · cases h
  · cases h

theorem array_wellFormed {operand : Operand} (ho : operand.WellFormed) {ps : List Predicate}
    (h : ofOperand.array operand = .ok ps) : WellFormedAll ps := by
  rw [ofOperand.array] at h
  cases read : operand.asArray () with
  | none =>
    rw [read] at h
    cases h
  | some reading =>
    rw [read, Option.getD_some] at h
    rw [h] at read
    exact ho.asArray ps read

theorem ofOperand_wellFormed {given : Dict Json} (hg : (Json.obj given).WellFormed)
    {operand : Operand} (ho : operand.WellFormed) {p : Predicate}
    (h : ofOperand given operand = .ok p) : p.WellFormed := by
  unfold ofOperand at h
  split at h
  · cases h
  split at h
  · obtain ⟨ps, read, rfl⟩ := Except.map_eq_ok.mp h
    exact array_wellFormed ho read
  · obtain ⟨ps, read, rfl⟩ := Except.map_eq_ok.mp h
    exact array_wellFormed ho read
  · obtain ⟨child, read, rfl⟩ := Except.map_eq_ok.mp h
    exact ho.asPredicate child read
  · split at h
    · cases h
      trivial
    · cases h
  · exact leafOf_wellFormed ho.body hg h

mutual

theorem decode_wellFormed : ∀ (j : Json), j.WellFormed → ∀ p, decode j = .ok p → p.WellFormed
  | .obj members, wf, p, h => by
      rw [decode] at h
      have operandsWf := operands_wellFormed members wf.2
      have given : (Json.obj (parameters members)).WellFormed := Json.WellFormed.filter wf _
      cases stands : operands members with
      | nil =>
        rw [stands] at h
        cases h
      | cons operand rest =>
        cases rest with
        | nil =>
          rw [stands] at h operandsWf
          exact ofOperand_wellFormed given (operandsWf operand List.mem_cons_self) h
        | cons second rest =>
          rw [stands] at h
          cases h
  | .null, _, _, h => by simp [decode] at h
  | .bool _, _, _, h => by simp [decode] at h
  | .num _, _, _, h => by simp [decode] at h
  | .str _, _, _, h => by simp [decode] at h
  | .arr _, _, _, h => by simp [decode] at h

theorem decodeAll_wellFormed : ∀ (items : List Json), Json.WellFormedItems items →
    ∀ ps, decodeAll items = .ok ps → WellFormedAll ps
  | [], _, ps, h => by
      cases h
      trivial
  | item :: items, wf, ps, h => by
      rw [decodeAll] at h
      obtain ⟨p, first, h⟩ := Except.bind_eq_ok.mp h
      obtain ⟨rest, others, h⟩ := Except.bind_eq_ok.mp h
      cases h
      exact ⟨decode_wellFormed item wf.1 p first, decodeAll_wellFormed items wf.2 rest others⟩

theorem decodeArray_wellFormed : ∀ (j : Json), j.WellFormed →
    ∀ ps, decodeArray j = some (.ok ps) → WellFormedAll ps
  | .arr items, wf, ps, h => by
      rw [decodeArray] at h
      exact decodeAll_wellFormed items wf ps (Option.some.inj h)
  | .null, _, _, h => by simp [decodeArray] at h
  | .bool _, _, _, h => by simp [decodeArray] at h
  | .num _, _, _, h => by simp [decodeArray] at h
  | .str _, _, _, h => by simp [decodeArray] at h
  | .obj _, _, _, h => by simp [decodeArray] at h

theorem operands_wellFormed : ∀ (members : List (String × Json)),
    Json.WellFormedMembers members → ∀ operand ∈ operands members, operand.WellFormed
  | [], _, _, mem => by simp [operands] at mem
  | (key, body) :: rest, wf, operand, mem => by
      rw [operands] at mem
      split at mem
      · exact operands_wellFormed rest wf.2 operand mem
      · rcases List.mem_cons.mp mem with rfl | mem
        · exact ⟨wf.1, decode_wellFormed body wf.1, decodeArray_wellFormed body wf.1⟩
        · exact operands_wellFormed rest wf.2 operand mem

end

theorem decoder_yields : Decoder.Yields decoder WellFormed := by
  intro j wf p h
  unfold decoder at h
  split at h
  · next q read =>
    cases h
    exact decode_wellFormed j wf _ read
  · cases h

/-! Of the members of a written leaf one is no parameter, and it is the one with the operator. -/

theorem operands_eq_filter (members : List (String × Json)) :
    operands members =
      (members.filter fun entry => !PredicateOptions.keys.contains entry.1).map fun entry =>
        ⟨entry.1, entry.2, fun _ => decode entry.2, fun _ => decodeArray entry.2⟩ := by
  induction members with
  | nil => simp [operands]
  | cons entry rest ih =>
    obtain ⟨key, body⟩ := entry
    rw [operands, ih]
    by_cases parameter : PredicateOptions.keys.contains key
    · rw [if_pos parameter, List.filter_cons_of_neg (by simpa using parameter)]
    · rw [if_neg parameter, List.filter_cons_of_pos (by simpa using parameter), List.map_cons]

theorem not_parameter (operator : Operator) :
    PredicateOptions.keys.contains operator.key = false := by
  cases operator <;> rfl

theorem not_composite (operator : Operator) : compositeKeys.contains operator.key = false := by
  cases operator <;> rfl

/-- The fields of a leaf as they are written. -/
def writtenLeaf (operator : Operator) (fields : Dict Json) (options : PredicateOptions) :
    List (String × Option Json) :=
  (operator.key, some (.obj fields)) :: options.written

section Leaf

variable (operator : Operator) (fields : Dict Json) (options : PredicateOptions)

theorem encode_leaf :
    encode (.leaf operator fields options) =
      .obj (Dict.ofList (Fields.given (writtenLeaf operator fields options))) := by
  rw [encode, PredicateOptions.members_eq]
  rfl

theorem find?_leaf (name : String) :
    Dict.find? (Dict.ofList (Fields.given (writtenLeaf operator fields options))) name =
      if operator.key = name then some (.obj fields) else Fields.valueOf? options.written name := by
  refine Fields.find?_ofList_given _ ?_ name
  show (operator.key :: PredicateOptions.keys).Nodup
  cases operator <;> decide

theorem valueOf_written_eq_none {name : String} (h : PredicateOptions.keys.contains name = false) :
    Fields.valueOf? options.written name = none := by
  simp only [PredicateOptions.keys, List.contains_cons, Bool.or_eq_false_iff, beq_eq_false_iff_ne] at h
  simp [PredicateOptions.written, Fields.valueOf?, Ne.symm h.1, Ne.symm h.2.1, Ne.symm h.2.2.1,
    Ne.symm h.2.2.2.1, Ne.symm h.2.2.2.2.1]

/-- Of the members of a written leaf only the fields are no parameter. -/
theorem leaf_sole :
    (Dict.ofList (Fields.given (writtenLeaf operator fields options))).filter
      (fun entry => !PredicateOptions.keys.contains entry.1) = [(operator.key, .obj fields)] := by
  -- where the operator stands among the parameters depends on its name, so lookups are compared
  refine Dict.ext_of_sorted (Dict.sorted_filter (Dict.sorted_ofList _) _)
    ⟨fun _ mem => absurd mem List.not_mem_nil, trivial⟩ fun name => ?_
  rw [Dict.find?_filter _ (fun key => !PredicateOptions.keys.contains key), find?_leaf,
    Dict.find?_cons, Dict.find?_nil]
  cases parameter : PredicateOptions.keys.contains name with
  | true =>
    have other : operator.key ≠ name := by
      rintro rfl
      rw [not_parameter] at parameter
      cases parameter
    simp [other]
  | false => simp [valueOf_written_eq_none options parameter]

theorem leaf_operands :
    operands (Dict.ofList (Fields.given (writtenLeaf operator fields options))) =
      [⟨operator.key, .obj fields, fun _ => decode (.obj fields),
        fun _ => decodeArray (.obj fields)⟩] := by
  rw [operands_eq_filter, leaf_sole]
  rfl

theorem leaf_parameters :
    PredicateOptions.decode
        (.obj (parameters (Dict.ofList (Fields.given (writtenLeaf operator fields options))))) =
      .ok options := by
  have read : PredicateOptions.ofFields
      (.named (parameters (Dict.ofList (Fields.given (writtenLeaf operator fields options))))) =
        .ok options := by
    refine PredicateOptions.ofFields_written fun name mem => ?_
    have parameter : PredicateOptions.keys.contains name = true := by simpa using mem
    have other : operator.key ≠ name := by
      rintro rfl
      rw [not_parameter] at parameter
      cases parameter
    rw [parameters, Dict.find?_filter _ (fun key => PredicateOptions.keys.contains key),
      if_pos parameter, find?_leaf, if_neg other]
  simp only [PredicateOptions.decode, Fields.ofJson, Except.ok_bind, read, Fields.finish]
  rfl

theorem leafOf_key {given : Dict Json} (read : PredicateOptions.decode (.obj given) = .ok options) :
    leafOf operator.key (.obj fields) given = .ok (.leaf operator fields options) := by
  simp only [leafOf, Operator.ofKey?_key, read]

theorem decode_encode_leaf :
    decode (encode (.leaf operator fields options)) = .ok (.leaf operator fields options) := by
  rw [encode_leaf, decode, leaf_operands, ofOperands, ofOperand]
  have read := leafOf_key operator fields options (leaf_parameters operator fields options)
  simp only [not_composite, Bool.false_and, Bool.false_eq_true, if_false]
  split
  · next h => cases operator <;> simp [Operator.key] at h
  · next h => cases operator <;> simp [Operator.key] at h
  · next h => cases operator <;> simp [Operator.key] at h
  · next h => cases operator <;> simp [Operator.key] at h
  · exact read

end Leaf

mutual

theorem decode_encode : ∀ (p : Predicate), decode (encode p) = .ok p
  | .leaf operator fields options => decode_encode_leaf operator fields options
  | .allOf children => by
      show ofOperands [] [⟨"and", .arr (encodeAll children),
        fun _ => decode (.arr (encodeAll children)), fun _ => some (decodeAll (encodeAll children))⟩] = .ok (.allOf children)
      rw [decodeAll_encodeAll children]
      rfl
  | .anyOf children => by
      show ofOperands [] [⟨"or", .arr (encodeAll children),
        fun _ => decode (.arr (encodeAll children)), fun _ => some (decodeAll (encodeAll children))⟩] = .ok (.anyOf children)
      rw [decodeAll_encodeAll children]
      rfl
  | .negation child => by
      show ofOperands [] [⟨"not", encode child, fun _ => decode (encode child),
        fun _ => decodeArray (encode child)⟩] = .ok (.negation child)
      rw [decode_encode child]
      rfl
  | .script source => rfl

theorem decodeAll_encodeAll : ∀ (ps : List Predicate), decodeAll (encodeAll ps) = .ok ps
  | [] => rfl
  | p :: ps => by
      rw [encodeAll, decodeAll, decode_encode p, decodeAll_encodeAll ps]
      rfl

end

theorem decoder_encode (p : Predicate) : decoder (encode p) = .ok p := by
  simp only [decoder, decode_encode]

theorem encodeAll_eq_map (ps : List Predicate) : encodeAll ps = ps.map encode := by
  induction ps with
  | nil => rfl
  | cons p ps ih => rw [encodeAll, ih, List.map_cons]

mutual

theorem same_self : ∀ (p : Predicate), p.WellFormed → same p p = true
  | .leaf operator fields options, h => by
      simp [same, Json.sameMembers_self fields h.1.2, PredicateOptions.same_self h.2]
  | .allOf children, h => by rw [same, sameAll_self children h]
  | .anyOf children, h => by rw [same, sameAll_self children h]
  | .negation child, h => by rw [same, same_self child h]
  | .script source, _ => by simp [same]

theorem sameAll_self : ∀ (ps : List Predicate), WellFormedAll ps → sameAll ps ps = true
  | [], _ => rfl
  | p :: ps, h => by
      rw [sameAll, same_self p h.1, sameAll_self ps h.2]
      rfl

end

end Predicate

end VirtualService
