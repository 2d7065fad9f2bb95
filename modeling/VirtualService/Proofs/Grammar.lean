/-
  VirtualService/Proofs/Grammar.lean
  ==================================
  **What writes a predicate.**

  The grammar of predicates is told without the reader (`Predicate.Accepted`): an
  object with one operator beside its parameters, which only a leaf may have, and so
  at every depth within `and`, `or` and `not`.  The reader accepts just these values.
  What it makes of an object is gone through once (`Predicate.Makes`); acceptance is
  an induction over the grammar in one direction and over the predicate that was read
  in the other.  Written again, a predicate has the outline of the value from which it
  was read (`Predicate.outline`): everything but the parameters, which are written
  only where they differ from their defaults.
-/
import VirtualService.Proofs.WireFormat.Predicate

namespace VirtualService

/-! ### Readings that are accepted -/

theorem Except.exists_map_eq_ok {ε α β : Type} {x : Except ε α} {f : α → β} :
    (∃ b, x.map f = .ok b) ↔ ∃ a, x = .ok a := by
  cases x with
  | error e => exact iff_of_false nofun nofun
  | ok a => exact iff_of_true ⟨f a, rfl⟩ ⟨a, rfl⟩

namespace Decoder

variable {α : Type}

/-- A decoder reads just the values with a property. -/
def Accepts (decode : Decoder α) (P : Json → Prop) : Prop :=
  ∀ j, (∃ a, decode j = .ok a) ↔ P j

theorem accepts_bool : Accepts bool fun j => ∃ b, j = .bool b := by
  intro j
  cases j <;> simp [bool]

theorem accepts_text : Accepts text fun j => ∃ s, j = .str s := by
  intro j
  cases j <;> simp [text]

theorem accepts_map : Accepts map fun j => ∃ members, j = .obj members := by
  intro j
  cases j <;> simp [map]

theorem Accepts.option {decode : Decoder α} {P : Json → Prop} (h : Accepts decode P) :
    Accepts (option decode) fun j => j = .null ∨ P j := by
  intro j
  dsimp only
  by_cases null : j = .null
  · subst null
    exact iff_of_true ⟨none, rfl⟩ (.inl rfl)
  · rw [option_of_ne_null null, Except.exists_map_eq_ok, or_iff_right null, h j]

end Decoder

namespace Fields

variable {α : Type} {decode : Decoder α} {P : Json → Prop}

/-- A field is read if it is not there, or if its value is accepted. -/
theorem read_accepts (h : decode.Accepts P) (fields : Fields) (name : String) :
    (∃ o, fields.read name decode = .ok o) ↔ ∀ j ∈ fields.find? name, P j := by
  rw [read]
  cases fields.find? name with
  | none => simp
  | some j =>
    simp only [Option.mem_def, Option.some.injEq, forall_eq', ← h j]
    exact Except.exists_map_eq_ok

/-- A text that must be there is read if it is there. -/
theorem read_text (fields : Fields) (name : String) (s : String) :
    fields.read name Decoder.text = .ok (some s) ↔ fields.find? name = some (.str s) := by
  rw [read]
  cases fields.find? name with
  | none => simp
  | some j => cases j <;> simp [Decoder.text, Except.map]

/-- A record is opened from an object or an array, whatever is asked of its fields. -/
theorem opened_iff {record : String} {declared : List String} {j : Json} {Q : Fields → Prop} :
    (∃ fields, ofJson record declared j = .ok fields ∧ Q fields) ↔
      (∃ members, j = .obj members ∧ Q (.named members)) ∨
        ∃ items, j = .arr items ∧ Q (.ordered items record declared) := by
  cases j <;> simp [ofJson]

theorem finish_ordered {items : List Json} {record : String} {declared : List String} :
    (ordered items record declared).finish = .ok () ↔ items.length ≤ declared.length := by
  rw [finish]
  split
  · next fits => simp [fits]
  · next long => simp [long]

end Fields

/-! ### Parameters -/

/-- A value that may be left out or null. -/
def Json.OptionalIn (P : Json → Prop) (o : Option Json) : Prop := ∀ j ∈ o, j = .null ∨ P j

theorem Json.optionalIn_none (P : Json → Prop) : Json.OptionalIn P none := by
  intro j mem
  cases mem

namespace XPathSelector

/-- The values that write an XPath selector: an object with the selector and maybe namespaces, or an
    array of the one and maybe the other. -/
inductive Accepted : Json → Prop
  | named {members : Dict Json} {selector : String}
      (given : Dict.find? members "selector" = some (.str selector))
      (namespaces : Json.OptionalIn (fun j => ∃ ns, j = .obj ns) (Dict.find? members "ns")) :
      Accepted (.obj members)
  | ordered (selector : String) {namespaces : Option Json}
      (shape : Json.OptionalIn (fun j => ∃ ns, j = .obj ns) namespaces) :
      Accepted (.arr (.str selector :: namespaces.toList))

theorem decode_accepts : Decoder.Accepts decode Accepted := by
  intro j
  have asked : (∃ s, decode j = .ok s) ↔ ∃ fields,
      Fields.ofJson "XPathSelector" ["selector", "ns"] j = .ok fields ∧
      (∃ text, fields.find? "selector" = some (.str text)) ∧
      Json.OptionalIn (fun j => ∃ ns, j = .obj ns) (fields.find? "ns") ∧
      fields.finish = .ok () := by
    constructor
    · rintro ⟨s, read⟩
      unfold decode at read
      obtain ⟨fields, opened, read⟩ := Except.bind_eq_ok.mp read
      obtain ⟨⟨⟩, -, read⟩ := Except.bind_eq_ok.mp read
      obtain ⟨selector, readSelector, read⟩ := Except.bind_eq_ok.mp read
      obtain ⟨text, required, read⟩ := Except.bind_eq_ok.mp read
      obtain ⟨ns, readNs, read⟩ := Except.bind_eq_ok.mp read
      obtain ⟨⟨⟩, finished, -⟩ := Except.bind_eq_ok.mp read
      rw [Fields.require_eq_ok required] at readSelector
      exact ⟨fields, opened, ⟨text, (fields.read_text _ text).mp readSelector⟩,
        (Fields.read_accepts Decoder.accepts_map.option fields _).mp ⟨ns, readNs⟩, finished⟩
    · rintro ⟨fields, opened, ⟨text, there⟩, namespaces, finished⟩
      have readSelector := (fields.read_text "selector" text).mpr there
      obtain ⟨ns, readNs⟩ :=
        (Fields.read_accepts Decoder.accepts_map.option fields "ns").mpr namespaces
      refine ⟨⟨text, ns.join⟩, ?_⟩
      simp only [decode, opened, Except.ok_bind, readSelector, readNs]
      rw [Fields.firstFault_eq_ok _ (by simp [Fields.fault])]
      simp only [Except.ok_bind, Fields.require, finished]
      rfl
  rw [asked, Fields.opened_iff]
  constructor
  · rintro (⟨members, rfl, ⟨text, there⟩, namespaces, -⟩ |
      ⟨items, rfl, ⟨text, there⟩, namespaces, finished⟩)
    · exact .named there namespaces
    · have short := Fields.finish_ordered.mp finished
      rcases items with - | ⟨first, - | ⟨ns, - | ⟨third, rest⟩⟩⟩
      · cases there
      · cases there
        exact @Accepted.ordered text none (Json.optionalIn_none _)
      · cases there
        exact @Accepted.ordered text (some ns) namespaces
      · simp at short
  · intro accepted
    cases accepted with
    | named given namespaces => exact .inl ⟨_, rfl, ⟨_, given⟩, namespaces, rfl⟩
    | @ordered selector namespaces shape =>
      cases namespaces with
      | none => exact .inr ⟨_, rfl, ⟨selector, rfl⟩, Json.optionalIn_none _, rfl⟩
      | some ns => exact .inr ⟨_, rfl, ⟨selector, rfl⟩, shape, rfl⟩

end XPathSelector

namespace PredicateOptions

/-- The values that write a JSONPath selector: an object or an array with the selector. -/
inductive PathAccepted : Json → Prop
  | named {members : Dict Json} {selector : String}
      (given : Dict.find? members "selector" = some (.str selector)) : PathAccepted (.obj members)
  | ordered (selector : String) : PathAccepted (.arr [.str selector])

theorem decodePath_accepts : Decoder.Accepts decodePath PathAccepted := by
  intro j
  have asked : (∃ s, decodePath j = .ok s) ↔ ∃ fields,
      Fields.ofJson "JsonPathSelector" ["selector"] j = .ok fields ∧
      (∃ text, fields.find? "selector" = some (.str text)) ∧ fields.finish = .ok () := by
    constructor
    · rintro ⟨s, read⟩
      unfold decodePath at read
      obtain ⟨fields, opened, read⟩ := Except.bind_eq_ok.mp read
      obtain ⟨selector, readSelector, read⟩ := Except.bind_eq_ok.mp read
      obtain ⟨text, required, read⟩ := Except.bind_eq_ok.mp read
      obtain ⟨⟨⟩, finished, -⟩ := Except.bind_eq_ok.mp read
      rw [Fields.require_eq_ok required] at readSelector
      exact ⟨fields, opened, ⟨text, (fields.read_text _ text).mp readSelector⟩, finished⟩
    · rintro ⟨fields, opened, ⟨text, there⟩, finished⟩
      have readSelector := (fields.read_text "selector" text).mpr there
      refine ⟨text, ?_⟩
      simp only [decodePath, opened, Except.ok_bind, readSelector, Fields.require, finished]
      rfl
  rw [asked, Fields.opened_iff]
  constructor
  · rintro (⟨members, rfl, ⟨text, there⟩, -⟩ | ⟨items, rfl, ⟨text, there⟩, finished⟩)
    · exact .named there
    · have short := Fields.finish_ordered.mp finished
      rcases items with - | ⟨first, - | ⟨second, rest⟩⟩
      · cases there
      · cases there
        exact .ordered text
      · simp at short
  · intro accepted
    cases accepted with
    | named given => exact .inl ⟨_, rfl, ⟨_, given⟩, rfl⟩
    | ordered selector => exact .inr ⟨_, rfl, ⟨selector, rfl⟩, rfl⟩

/-- The parameters of a leaf can be read: each is left out or of its own kind, and those that may be
    absent may be null as well. -/
structure Readable (members : Dict Json) : Prop where
  caseSensitive : ∀ j ∈ Dict.find? members "caseSensitive", ∃ b, j = .bool b
  keyCaseSensitive : Json.OptionalIn (fun j => ∃ b, j = .bool b)
    (Dict.find? members "keyCaseSensitive")
  excluded : ∀ j ∈ Dict.find? members "except", ∃ s, j = .str s
  jsonPath : Json.OptionalIn PathAccepted (Dict.find? members "jsonpath")
  xpath : Json.OptionalIn XPathSelector.Accepted (Dict.find? members "xpath")

theorem decode_readable {members : Dict Json} :
    (∃ o, decode (.obj members) = .ok o) ↔ Readable members := by
  have caseSensitive := Fields.read_accepts Decoder.accepts_bool (.named members) "caseSensitive"
  have keyCase :=
    Fields.read_accepts Decoder.accepts_bool.option (.named members) "keyCaseSensitive"
  have excluded := Fields.read_accepts Decoder.accepts_text (.named members) "except"
  have jsonPath := Fields.read_accepts decodePath_accepts.option (.named members) "jsonpath"
  have xpath :=
    Fields.read_accepts XPathSelector.decode_accepts.option (.named members) "xpath"
  constructor
  · rintro ⟨o, read⟩
    unfold decode at read
    obtain ⟨fields, ⟨⟩, read⟩ := Except.bind_eq_ok.mp read
    obtain ⟨options, read, -⟩ := Except.bind_eq_ok.mp read
    unfold ofFields at read
    obtain ⟨⟨⟩, -, read⟩ := Except.bind_eq_ok.mp read
    obtain ⟨first, readFirst, read⟩ := Except.bind_eq_ok.mp read
    obtain ⟨second, readSecond, read⟩ := Except.bind_eq_ok.mp read
    obtain ⟨third, readThird, read⟩ := Except.bind_eq_ok.mp read
    obtain ⟨fourth, readFourth, read⟩ := Except.bind_eq_ok.mp read
    obtain ⟨fifth, readFifth, -⟩ := Except.bind_eq_ok.mp read
    exact ⟨caseSensitive.mp ⟨first, readFirst⟩, keyCase.mp ⟨second, readSecond⟩,
      excluded.mp ⟨third, readThird⟩, jsonPath.mp ⟨fourth, readFourth⟩,
      xpath.mp ⟨fifth, readFifth⟩⟩
  · intro readable
    obtain ⟨first, readFirst⟩ := caseSensitive.mpr readable.caseSensitive
    obtain ⟨second, readSecond⟩ := keyCase.mpr readable.keyCaseSensitive
    obtain ⟨third, readThird⟩ := excluded.mpr readable.excluded
    obtain ⟨fourth, readFourth⟩ := jsonPath.mpr readable.jsonPath
    obtain ⟨fifth, readFifth⟩ := xpath.mpr readable.xpath
    refine ⟨⟨first.getD false, second.join, third.getD "", fourth.join, fifth.join⟩, ?_⟩
    simp only [decode, Fields.ofJson, Except.ok_bind, ofFields, readFirst, readSecond, readThird,
      readFourth, readFifth]
    rw [Fields.firstFault_eq_ok _ (by simp [Fields.fault])]
    rfl

end PredicateOptions

/-! ### Predicates -/

theorem Operator.ofKey?_eq_some {key : String} {operator : Operator} :
    ofKey? key = some operator ↔ key = operator.key := by
  constructor
  · intro found
    simpa [eq_comm] using List.find?_some found
  · rintro rfl
    exact ofKey?_key operator

namespace Predicate

/-- Apart from parameters the object has one member. -/
def Sole (members : Dict Json) (key : String) (body : Json) : Prop :=
  members.filter (fun entry => !PredicateOptions.keys.contains entry.1) = [(key, body)]

/-- The object has no parameters. -/
def Bare (members : Dict Json) : Prop := parameters members = []

/-- The values that write a predicate. -/
inductive Accepted : Json → Prop
  | allOf {members : Dict Json} {items : List Json} (sole : Sole members "and" (.arr items))
      (bare : Bare members) (children : ∀ item ∈ items, Accepted item) : Accepted (.obj members)
  | anyOf {members : Dict Json} {items : List Json} (sole : Sole members "or" (.arr items))
      (bare : Bare members) (children : ∀ item ∈ items, Accepted item) : Accepted (.obj members)
  | negation {members : Dict Json} {child : Json} (sole : Sole members "not" child)
      (bare : Bare members) (inner : Accepted child) : Accepted (.obj members)
  | script {members : Dict Json} {source : String} (sole : Sole members "inject" (.str source))
      (bare : Bare members) : Accepted (.obj members)
  | leaf {members : Dict Json} {operator : Operator} {fields : Dict Json}
      (sole : Sole members operator.key (.obj fields))
      (readable : PredicateOptions.Readable members) : Accepted (.obj members)

/-! What is made of an object, one case for each kind of predicate. -/

/-- The predicate that a member makes beside parameters. -/
inductive Makes (given : Dict Json) : String → Json → Predicate → Prop
  | allOf {items : List Json} {ps : List Predicate} (bare : given = [])
      (children : decodeAll items = .ok ps) : Makes given "and" (.arr items) (.allOf ps)
  | anyOf {items : List Json} {ps : List Predicate} (bare : given = [])
      (children : decodeAll items = .ok ps) : Makes given "or" (.arr items) (.anyOf ps)
  | negation {child : Json} {p : Predicate} (bare : given = []) (inner : decode child = .ok p) :
      Makes given "not" child (.negation p)
  | script {source : String} (bare : given = []) : Makes given "inject" (.str source) (.script source)
  | leaf {operator : Operator} {fields : Dict Json} {options : PredicateOptions}
      (read : PredicateOptions.decode (.obj given) = .ok options) :
      Makes given operator.key (.obj fields) (.leaf operator fields options)

theorem leafOf_eq_ok {key : String} {body : Json} {given : Dict Json} {p : Predicate}
    (h : leafOf key body given = .ok p) : Makes given key body p := by
  unfold leafOf at h
  split at h
  · cases h
  · next operator fields found =>
    split at h
    · next options read =>
      cases h
      rw [Operator.ofKey?_eq_some.mp found]
      exact .leaf read
    · cases h
  · cases h

theorem decodeArray_getD {body : Json} {e : DefinitionError} {ps : List Predicate}
    (h : (decodeArray body).getD (.error e) = .ok ps) :
    ∃ items, body = .arr items ∧ decodeAll items = .ok ps := by
  cases body with
  | arr items => exact ⟨items, rfl, by rwa [decodeArray, Option.getD_some] at h⟩
  | _ =>
    rw [decodeArray] at h
    · cases h
    · nofun

theorem makes_of_ofOperand {given : Dict Json} {operand : Operand} {p : Predicate}
    (asPredicate : operand.asPredicate () = decode operand.body)
    (asArray : operand.asArray () = decodeArray operand.body)
    (h : ofOperand given operand = .ok p) : Makes given operand.key operand.body p := by
  unfold ofOperand at h
  split at h
  · cases h
  next allowed =>
  have bare (composite : compositeKeys.contains operand.key = true) : given = [] := by
    rw [composite] at allowed
    simpa using allowed
  split at h
  · next named =>
    obtain ⟨ps, read, rfl⟩ := Except.map_eq_ok.mp h
    rw [ofOperand.array, asArray] at read
    obtain ⟨items, array, children⟩ := decodeArray_getD read
    rw [array, named]
    exact .allOf (bare (named ▸ rfl)) children
  · next named =>
    obtain ⟨ps, read, rfl⟩ := Except.map_eq_ok.mp h
    rw [ofOperand.array, asArray] at read
    obtain ⟨items, array, children⟩ := decodeArray_getD read
    rw [array, named]
    exact .anyOf (bare (named ▸ rfl)) children
  · next named =>
    obtain ⟨child, read, rfl⟩ := Except.map_eq_ok.mp h
    rw [named]
    exact .negation (bare (named ▸ rfl)) (asPredicate ▸ read)
  · next named =>
    split at h
    · next source text =>
      cases h
      rw [named, text]
      exact .script (bare (named ▸ rfl))
    · cases h
  · exact leafOf_eq_ok h

theorem ofOperand_of_makes {given : Dict Json} {operand : Operand} {p : Predicate}
    (asPredicate : operand.asPredicate () = decode operand.body)
    (asArray : operand.asArray () = decodeArray operand.body)
    (h : Makes given operand.key operand.body p) : ofOperand given operand = .ok p := by
  obtain ⟨key, body, predicate, array⟩ := operand
  dsimp only at asPredicate asArray h
  cases h with
  | @allOf items ps bare children =>
    subst bare
    show ((array ()).getD _).map Predicate.allOf = _
    rw [asArray, decodeArray, Option.getD_some, children]
    rfl
  | @anyOf items ps bare children =>
    subst bare
    show ((array ()).getD _).map Predicate.anyOf = _
    rw [asArray, decodeArray, Option.getD_some, children]
    rfl
  | negation bare inner =>
    subst bare
    show (predicate ()).map Predicate.negation = _
    rw [asPredicate, inner]
    rfl
  | script bare =>
    subst bare
    rfl
  | @leaf operator fields options read =>
    have made := leafOf_key operator fields options read
    cases operator <;> exact made

/-- What a value writes: an object with one operator, and what this makes of its value. -/
theorem decode_obj {members : Dict Json} {p : Predicate} :
    decode (.obj members) = .ok p ↔
      ∃ key body, Sole members key body ∧ Makes (parameters members) key body p := by
  rw [decode, operands_eq_filter]
  constructor
  · intro h
    cases only : members.filter (fun entry => !PredicateOptions.keys.contains entry.1) with
    | nil =>
      rw [only] at h
      cases h
    | cons entry others =>
      rw [only] at h
      cases others with
      | nil => exact ⟨_, _, only, makes_of_ofOperand rfl rfl h⟩
      | cons => cases h
  · rintro ⟨key, body, sole, made⟩
    rw [show members.filter _ = _ from sole]
    exact ofOperand_of_makes rfl rfl made

theorem obj_of_decode {v : Json} {p : Predicate} (h : decode v = .ok p) :
    ∃ members, v = .obj members := by
  cases v with
  | obj members => exact ⟨members, rfl⟩
  | _ => rw [decode] at h; cases h

/-! ### Acceptance -/

theorem readable_parameters {members : Dict Json} :
    PredicateOptions.Readable (parameters members) ↔ PredicateOptions.Readable members := by
  have found (name : String) (parameter : PredicateOptions.keys.contains name = true) :
      Dict.find? (parameters members) name = Dict.find? members name := by
    rw [parameters, Dict.find?_filter _ (fun key => PredicateOptions.keys.contains key),
      if_pos parameter]
  constructor
  · rintro ⟨caseSensitive, keyCaseSensitive, excluded, jsonPath, xpath⟩
    rw [found _ rfl] at caseSensitive keyCaseSensitive excluded jsonPath xpath
    exact ⟨caseSensitive, keyCaseSensitive, excluded, jsonPath, xpath⟩
  · rintro ⟨caseSensitive, keyCaseSensitive, excluded, jsonPath, xpath⟩
    rw [← found _ rfl] at caseSensitive keyCaseSensitive excluded jsonPath xpath
    exact ⟨caseSensitive, keyCaseSensitive, excluded, jsonPath, xpath⟩

theorem decodeAll_of_each {items : List Json} (h : ∀ item ∈ items, ∃ p, decode item = .ok p) :
    ∃ ps, decodeAll items = .ok ps := by
  induction items with
  | nil => exact ⟨[], rfl⟩
  | cons item items ih =>
    obtain ⟨p, first⟩ := h item List.mem_cons_self
    obtain ⟨ps, others⟩ := ih fun other mem => h other (List.mem_cons_of_mem _ mem)
    exact ⟨p :: ps, by rw [decodeAll, first, others]; rfl⟩

/-- Whatever the grammar allows is read: by induction on how it is allowed. -/
theorem decode_of_accepted {v : Json} (h : Accepted v) : ∃ p, decode v = .ok p := by
  induction h with
  | allOf sole bare children ih =>
    obtain ⟨ps, read⟩ := decodeAll_of_each ih
    exact ⟨_, decode_obj.mpr ⟨_, _, sole, .allOf bare read⟩⟩
  | anyOf sole bare children ih =>
    obtain ⟨ps, read⟩ := decodeAll_of_each ih
    exact ⟨_, decode_obj.mpr ⟨_, _, sole, .anyOf bare read⟩⟩
  | negation sole bare inner ih =>
    obtain ⟨p, read⟩ := ih
    exact ⟨_, decode_obj.mpr ⟨_, _, sole, .negation bare read⟩⟩
  | script sole bare => exact ⟨_, decode_obj.mpr ⟨_, _, sole, .script bare⟩⟩
  | leaf sole readable =>
    obtain ⟨options, read⟩ :=
      PredicateOptions.decode_readable.mpr (readable_parameters.mpr readable)
    exact ⟨_, decode_obj.mpr ⟨_, _, sole, .leaf read⟩⟩

theorem decodeAll_cons {items : List Json} {p : Predicate} {ps : List Predicate}
    (h : decodeAll items = .ok (p :: ps)) :
    ∃ item rest, items = item :: rest ∧ decode item = .ok p ∧ decodeAll rest = .ok ps := by
  cases items with
  | nil => cases h
  | cons item rest =>
    rw [decodeAll] at h
    obtain ⟨q, first, h⟩ := Except.bind_eq_ok.mp h
    obtain ⟨qs, others, h⟩ := Except.bind_eq_ok.mp h
    cases h
    exact ⟨item, rest, rfl, first, others⟩

theorem decodeAll_nil {items : List Json} (h : decodeAll items = .ok []) : items = [] := by
  cases items with
  | nil => rfl
  | cons item rest =>
    rw [decodeAll] at h
    obtain ⟨q, -, h⟩ := Except.bind_eq_ok.mp h
    obtain ⟨qs, -, h⟩ := Except.bind_eq_ok.mp h
    cases h

mutual

/-- Whatever is read is allowed by the grammar: by induction on what was read. -/
theorem accepted_of_decode : ∀ (p : Predicate) (v : Json), decode v = .ok p → Accepted v
  | p, v, h => by
      obtain ⟨members, rfl⟩ := obj_of_decode h
      obtain ⟨key, body, sole, made⟩ := decode_obj.mp h
      match p, made with
      | .allOf ps, .allOf bare children =>
        exact .allOf sole bare (accepted_of_decodeAll ps _ children)
      | .anyOf ps, .anyOf bare children =>
        exact .anyOf sole bare (accepted_of_decodeAll ps _ children)
      | .negation child, .negation bare inner =>
        exact .negation sole bare (accepted_of_decode child _ inner)
      | .script source, .script bare => exact .script sole bare
      | .leaf _ _ _, .leaf read =>
        exact .leaf sole (readable_parameters.mp (PredicateOptions.decode_readable.mp ⟨_, read⟩))

theorem accepted_of_decodeAll : ∀ (ps : List Predicate) (items : List Json),
    decodeAll items = .ok ps → ∀ item ∈ items, Accepted item
  | [], items, h => by
      rw [decodeAll_nil h]
      nofun
  | p :: ps, items, h => by
      obtain ⟨first, rest, rfl, read, others⟩ := decodeAll_cons h
      intro item mem
      rcases List.mem_cons.mp mem with rfl | mem
      · exact accepted_of_decode p item read
      · exact accepted_of_decodeAll ps rest others item mem

end

/-! ### Outlines -/

mutual

/-- A value without parameters, at every depth where a predicate is nested. -/
def outline : Json → Json
  | .obj members => .obj (outlineMembers members)
  | v => v

def outlineMembers : List (String × Json) → List (String × Json)
  | [] => []
  | (key, body) :: members =>
      if PredicateOptions.keys.contains key then outlineMembers members
      else (key, outlineUnder key body) :: outlineMembers members

/-- Only `and`, `or` and `not` nest predicates: what other keys hold is left as it is. -/
def outlineUnder (key : String) : Json → Json
  | .arr items => if key == "and" || key == "or" then .arr (outlineAll items) else .arr items
  | .obj members => if key == "not" then .obj (outlineMembers members) else .obj members
  | v => v

def outlineAll : List Json → List Json
  | [] => []
  | item :: items => outline item :: outlineAll items

end

theorem outlineMembers_eq (members : List (String × Json)) :
    outlineMembers members =
      (members.filter fun entry => !PredicateOptions.keys.contains entry.1).map
        fun entry => (entry.1, outlineUnder entry.1 entry.2) := by
  induction members with
  | nil => rfl
  | cons entry members ih =>
    obtain ⟨key, body⟩ := entry
    rw [outlineMembers, List.filter_cons, ih]
    dsimp only
    cases PredicateOptions.keys.contains key <;> rfl

theorem outline_of_sole {members : Dict Json} {key : String} {body : Json}
    (sole : Sole members key body) :
    outline (.obj members) = .obj [(key, outlineUnder key body)] := by
  rw [outline, outlineMembers_eq, sole, List.map_cons, List.map_nil]

theorem outlineUnder_not (child : Json) : outlineUnder "not" child = outline child := by
  cases child <;> rfl

mutual

/-- Writing what was read only loses parameters: by induction on what was read. -/
theorem outline_encode : ∀ (p : Predicate) (v : Json), decode v = .ok p →
    outline (encode p) = outline v
  | p, v, h => by
      obtain ⟨members, rfl⟩ := obj_of_decode h
      obtain ⟨key, body, sole, made⟩ := decode_obj.mp h
      rw [outline_of_sole sole]
      match p, made with
      | .allOf ps, .allOf _ children =>
        show Json.obj [("and", .arr (outlineAll (encodeAll ps)))] = _
        rw [outlineAll_encodeAll ps _ children]
        rfl
      | .anyOf ps, .anyOf _ children =>
        show Json.obj [("or", .arr (outlineAll (encodeAll ps)))] = _
        rw [outlineAll_encodeAll ps _ children]
        rfl
      | .negation child, .negation _ inner =>
        show Json.obj [("not", outlineUnder "not" (encode child))] = _
        rw [outlineUnder_not, outlineUnder_not, outline_encode child _ inner]
      | .script source, .script _ => rfl
      | .leaf operator fields options, .leaf _ => rw [encode_leaf, outline_of_sole (leaf_sole ..)]

theorem outlineAll_encodeAll : ∀ (ps : List Predicate) (items : List Json),
    decodeAll items = .ok ps → outlineAll (encodeAll ps) = outlineAll items
  | [], items, h => by rw [decodeAll_nil h, encodeAll]
  | p :: ps, items, h => by
      obtain ⟨item, rest, rfl, read, others⟩ := decodeAll_cons h
      rw [encodeAll, outlineAll, outlineAll, outline_encode p item read,
        outlineAll_encodeAll ps rest others]

end

/-- The reader accepts the values of the grammar and no other, and reads back whatever is written.
    So a value that was read and written is a normal form: it is read as before, it is written as it
    is, and it has the outline of the value it came from. -/
theorem grammar_exact :
    (∀ v, (∃ p, decode v = .ok p) ↔ Accepted v) ∧
    (∀ p, decode (encode p) = .ok p) ∧
    ∀ v n, (decode v).map encode = .ok n →
      decode n = decode v ∧ (decode n).map encode = .ok n ∧ outline n = outline v := by
  refine ⟨fun v => ⟨?_, decode_of_accepted⟩, decode_encode, fun v n written => ?_⟩
  · rintro ⟨p, read⟩
    exact accepted_of_decode p v read
  · obtain ⟨p, read, rfl⟩ := Except.map_eq_ok.mp written
    rw [decode_encode, read]
    exact ⟨rfl, rfl, outline_encode p v read⟩

end Predicate

end VirtualService
