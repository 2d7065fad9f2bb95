/-
  VirtualService/Proofs/WireFormat/Response.lean
  ==============================================
  **Responses are written so that they read back.**

  A canned response holds its extra members beside its own fields, so its predicate
  says that none of them has a name that is a field's.  How often a response is
  served can be said in two ways and is written in one.
-/
import VirtualService.Response.Definition
import VirtualService.Proofs.WireFormat.Predicate

namespace VirtualService

/-! ### Proxies -/

theorem ProxyMode.decode_key (m : ProxyMode) : ProxyMode.decode (.str m.key) = .ok m := by
  cases m <;> rfl

theorem headers_decode (headers : Dict String) :
    Decoder.dict Decoder.text (.obj (Dict.mapValues .str headers)) = .ok headers :=
  Decoder.dict_mapValues fun _ _ => rfl

namespace PredicateGenerator

/-- The selection is a well-formed object, and so are the namespaces. -/
def WellFormed (g : PredicateGenerator) : Prop :=
  (Json.obj g.selection).WellFormed ∧ g.options.WellFormed

theorem decode_yields : Decoder.Yields decode WellFormed := by
  intro j wf g h
  unfold decode at h
  obtain ⟨members, opened, h⟩ := Except.bind_eq_ok.mp h
  have fieldsWf : (Fields.named members).WellFormed := Fields.yields_membersOf _ j wf members opened
  obtain ⟨⟨⟩, -, h⟩ := Except.bind_eq_ok.mp h
  obtain ⟨selection?, readSelection, h⟩ := Except.bind_eq_ok.mp h
  obtain ⟨selection, required, h⟩ := Except.bind_eq_ok.mp h
  obtain ⟨options, readOptions, h⟩ := Except.bind_eq_ok.mp h
  obtain ⟨operator, -, h⟩ := Except.bind_eq_ok.mp h
  cases h
  have there := Fields.require_eq_ok required
  refine ⟨Fields.read_yields fieldsWf Decoder.yields_map readSelection selection there, ?_⟩
  cases read : PredicateOptions.ofFields (Fields.named members) with
  | error e =>
    rw [read] at readOptions
    cases readOptions
  | ok o =>
    rw [read] at readOptions
    cases readOptions
    exact PredicateOptions.ofFields_wellFormed fieldsWf read

/-- The fields as they are written. -/
def written (g : PredicateGenerator) : List (String × Option Json) :=
  [("matches", some (.obj g.selection)),
   ("predicateOperator", g.operator.map fun operator => .str operator.key)] ++ g.options.written

theorem encode_eq (g : PredicateGenerator) : g.encode = .ofPairs (Fields.given g.written) := by
  obtain ⟨selection, operator, options⟩ := g
  rw [encode, written, Fields.given_append, PredicateOptions.members_eq]
  cases operator <;> rfl

theorem decode_encode (g : PredicateGenerator) : decode g.encode = .ok g := by
  rw [encode_eq, Json.ofPairs]
  have found := Fields.find?_ofList_given g.written
    (show (["matches", "predicateOperator"] ++ PredicateOptions.keys).Nodup by decide)
  generalize Dict.ofList (Fields.given g.written) = members at found
  have selection : (Fields.named members).read "matches" Decoder.map = .ok (some g.selection) :=
    Fields.read_named (o := some g.selection) .obj (found _) fun _ _ => rfl
  have operator : (Fields.named members).readOption "predicateOperator" Operator.decode =
      .ok g.operator :=
    Fields.readOption_named (fun operator => .str operator.key) (found _)
      (fun operator _ => operator.decode_key) (by simp)
  have options : PredicateOptions.ofFields (.named members) = .ok g.options := by
    refine PredicateOptions.ofFields_written fun name mem => (found name).trans ?_
    simp only [PredicateOptions.keys, List.mem_cons, List.not_mem_nil, or_false] at mem
    rcases mem with rfl | rfl | rfl | rfl | rfl <;> rfl
  simp only [decode, Fields.membersOf, Except.ok_bind, selection, operator, options]
  rw [Fields.firstFault_eq_ok _ (by simp [Fields.fault])]
  rfl

theorem same_self {g : PredicateGenerator} (h : g.WellFormed) : g.same g = true := by
  simp [same, Json.sameMembers_self _ h.1.2, PredicateOptions.same_self h.2]

end PredicateGenerator

namespace ProxyTarget

/-- The generators are well-formed, and the headers stand in the order of their names. -/
structure WellFormed (t : ProxyTarget) : Prop where
  generators : ∀ g ∈ t.generators, g.WellFormed
  headers : Dict.Sorted t.injectedHeaders

theorem decode_yields : Decoder.Yields decode WellFormed := by
  intro j wf t h
  unfold decode at h
  obtain ⟨fields, opened, h⟩ := Except.bind_eq_ok.mp h
  have fieldsWf := Fields.yields_ofJson _ _ j wf fields opened
  obtain ⟨⟨⟩, -, h⟩ := Except.bind_eq_ok.mp h
  obtain ⟨origin?, -, h⟩ := Except.bind_eq_ok.mp h
  obtain ⟨origin, -, h⟩ := Except.bind_eq_ok.mp h
  obtain ⟨⟨⟩, -, h⟩ := Except.bind_eq_ok.mp h
  obtain ⟨mode, -, h⟩ := Except.bind_eq_ok.mp h
  obtain ⟨generators, readGenerators, h⟩ := Except.bind_eq_ok.mp h
  obtain ⟨headers, readHeaders, h⟩ := Except.bind_eq_ok.mp h
  cases h
  exact ⟨Fields.readOr_yields fieldsWf PredicateGenerator.decode_yields.list (by simp)
      readGenerators,
    Fields.readOr_yields fieldsWf (Decoder.yields_dict Decoder.text) Dict.sorted_nil readHeaders⟩

/-- The fields as they are written. -/
def written (t : ProxyTarget) : List (String × Option Json) :=
  [("to", some (.str t.origin)), ("mode", some (.str t.mode.key)),
   ("predicateGenerators",
    if t.generators.isEmpty then none
    else some (.arr (t.generators.map PredicateGenerator.encode))),
   ("injectHeaders",
    if t.injectedHeaders.isEmpty then none
    else some (.obj (Dict.mapValues .str t.injectedHeaders)))]

theorem encode_eq (t : ProxyTarget) : t.encode = .ofPairs (Fields.given t.written) := by
  obtain ⟨origin, mode, generators, headers⟩ := t
  cases generators <;> cases headers <;> rfl

theorem decode_encode (t : ProxyTarget) : decode t.encode = .ok t := by
  rw [encode_eq, Json.ofPairs]
  have found := Fields.find?_ofList_given t.written (by simp [written])
  generalize Dict.ofList (Fields.given t.written) = members at found
  have origin : (Fields.named members).read "to" Decoder.text = .ok (some t.origin) :=
    Fields.read_named (o := some t.origin) .str (found _) fun _ _ => rfl
  have mode : (Fields.named members).readOr "mode" ProxyMode.decode .once = .ok t.mode :=
    Fields.readOr_named (o := some t.mode) (fun mode => .str mode.key) (found _)
      fun mode _ => mode.decode_key
  have generators : (Fields.named members).readOr "predicateGenerators"
      (Decoder.list PredicateGenerator.decode) [] = .ok t.generators :=
    Fields.readOr_named_nil (fun gs => .arr (gs.map PredicateGenerator.encode)) (found _)
      (Decoder.list_map fun g _ => g.decode_encode)
  have headers : (Fields.named members).readOr "injectHeaders" (Decoder.dict Decoder.text) [] =
      .ok t.injectedHeaders :=
    Fields.readOr_named_nil (fun headers => .obj (Dict.mapValues .str headers)) (found _)
      (headers_decode t.injectedHeaders)
  simp only [decode, Fields.ofJson, Except.ok_bind, origin, mode, generators, headers]
  rw [Fields.firstFault_eq_ok _ (by simp [Fields.fault])]
  rfl

theorem same_self {t : ProxyTarget} (h : t.WellFormed) : t.same t = true := by
  have generators : sameGenerators t.generators t.generators = true :=
    itemwise_self rfl (fun _ _ _ _ => rfl) fun g mem =>
      PredicateGenerator.same_self (h.generators g mem)
  simp [same, generators]

end ProxyTarget

/-! ### Responses -/

namespace LiteralResponse

/-- The headers stand in the order of their names, the body is not null, and no extra member has a
    field of its own. -/
structure WellFormed (r : LiteralResponse) : Prop where
  headers : Dict.Sorted r.headers
  body : ∀ body ∈ r.body, body.WellFormed ∧ body ≠ .null
  extra : (Json.obj r.extra).WellFormed
  unknown : ∀ name, known.contains name → Dict.find? r.extra name = none

theorem plain_wellFormed : plain.WellFormed where
  headers := trivial
  body := by simp [plain]
  extra := Json.wellFormed_obj.mpr ⟨trivial, by simp [plain]⟩
  unknown := fun _ _ => rfl

/-- What an option reads is not null. -/
theorem yields_any_ne_null {fields : Fields} (wf : fields.WellFormed) {name : String}
    {o : Option Json} (h : fields.readOption name Decoder.any = .ok o) :
    ∀ j ∈ o, j.WellFormed ∧ j ≠ .null := by
  intro j mem
  refine ⟨Fields.readOption_yields wf Decoder.yields_any h j mem, ?_⟩
  rintro rfl
  obtain ⟨o, read, rfl⟩ := Except.map_eq_ok.mp h
  rw [Fields.read] at read
  split at read
  · cases read
    cases mem
  · next value found =>
    obtain ⟨o, decoded, rfl⟩ := Except.map_eq_ok.mp read
    cases value <;> cases decoded <;> cases mem

theorem decode_yields : Decoder.Yields decode WellFormed := by
  intro j wf r h
  unfold decode at h
  obtain ⟨members, opened, h⟩ := Except.bind_eq_ok.mp h
  have membersWf := Fields.yields_membersOf _ j wf members opened
  have fieldsWf : (Fields.named members).WellFormed := membersWf
  obtain ⟨⟨⟩, -, h⟩ := Except.bind_eq_ok.mp h
  obtain ⟨status, -, h⟩ := Except.bind_eq_ok.mp h
  obtain ⟨headers, readHeaders, h⟩ := Except.bind_eq_ok.mp h
  obtain ⟨body, readBody, h⟩ := Except.bind_eq_ok.mp h
  cases h
  refine ⟨Fields.readOr_yields fieldsWf (Decoder.yields_dict Decoder.text) Dict.sorted_nil
    readHeaders, yields_any_ne_null fieldsWf readBody, membersWf.filter _, fun name isKnown => ?_⟩
  rw [Dict.find?_filter members (fun key => !known.contains key), isKnown]
  rfl

/-- The fields as they are written, before the extra members. -/
def written (r : LiteralResponse) : List (String × Option Json) :=
  [("statusCode", some (Json.nat r.status.toNat)),
   ("headers", if r.headers.isEmpty then none else some (.obj (Dict.mapValues .str r.headers))),
   ("body", r.body)]

theorem encode_eq (r : LiteralResponse) :
    r.encode = .ofPairs (Fields.given r.written ++ r.extra) := by
  obtain ⟨status, headers, body, extra⟩ := r
  cases headers <;> cases body <;> rfl

theorem valueOf_written_eq_none (r : LiteralResponse) {name : String}
    (h : known.contains name = false) : Fields.valueOf? r.written name = none := by
  simp only [known, List.contains_cons, Bool.or_eq_false_iff, beq_eq_false_iff_ne] at h
  simp [written, Fields.valueOf?, Ne.symm h.1, Ne.symm h.2.1, Ne.symm h.2.2.1]

theorem find?_encode {r : LiteralResponse} (h : r.WellFormed) (name : String) :
    Dict.find? (Dict.ofList (Fields.given r.written ++ r.extra)) name =
      if known.contains name then Fields.valueOf? r.written name else Dict.find? r.extra name := by
  rw [Fields.find?_ofList_given_append r.written (by simp [written]) h.extra.1]
  cases isKnown : known.contains name with
  | true => simp [h.unknown name isKnown]
  | false => simp [valueOf_written_eq_none r isKnown]

theorem extra_encode {r : LiteralResponse} (h : r.WellFormed) :
    (Dict.ofList (Fields.given r.written ++ r.extra)).filter (fun entry => !known.contains entry.1) =
      r.extra := by
  refine Dict.ext_of_sorted (Dict.sorted_filter (Dict.sorted_ofList _) _) h.extra.1 fun name => ?_
  rw [Dict.find?_filter _ (fun key => !known.contains key), find?_encode h]
  cases isKnown : known.contains name with
  | true => simp [h.unknown name isKnown]
  | false => simp

theorem decode_encode {r : LiteralResponse} (h : r.WellFormed) : decode r.encode = .ok r := by
  rw [encode_eq, Json.ofPairs]
  have found := find?_encode h
  have extra := extra_encode h
  generalize Dict.ofList (Fields.given r.written ++ r.extra) = members at found extra
  have status : (Fields.named members).readOr "statusCode" Decoder.word16 200 = .ok r.status :=
    Fields.readOr_named (o := some r.status) (fun status => Json.nat status.toNat) (found _)
      (fun n _ => by exact Decoder.word16_nat n)
  have headers : (Fields.named members).readOr "headers" (Decoder.dict Decoder.text) [] =
      .ok r.headers :=
    Fields.readOr_named_nil (fun headers => .obj (Dict.mapValues .str headers)) (found _)
      (headers_decode r.headers)
  have bodyThere : Dict.find? members "body" = r.body := found _
  have body : (Fields.named members).readOption "body" Decoder.any = .ok r.body :=
    Fields.readOption_named (fun body => body) (by simpa using bodyThere) (fun _ _ => rfl)
      fun body mem => (h.body body mem).2
  simp only [decode, Fields.membersOf, Except.ok_bind, status, headers, body, extra]
  rw [Fields.firstFault_eq_ok _ (by simp [Fields.fault])]
  rfl

theorem encode_ne_null (r : LiteralResponse) : r.encode ≠ .null := by
  simp [encode, Json.ofPairs]

theorem same_self {r : LiteralResponse} (h : r.WellFormed) : r.same r = true := by
  obtain ⟨status, headers, body, extra⟩ := r
  cases body with
  | none => simp [same, Json.sameMembers_self extra h.extra.2]
  | some body =>
    simp [same, Json.sameMembers_self extra h.extra.2, Json.same_self body (h.body body rfl).1]

end LiteralResponse

namespace ResponseDefinition

/-- The response is well-formed; where it is said how often it is served, that is not never. -/
def WellFormed : ResponseDefinition → Prop
  | literal response repeats => response.WellFormed ∧ repeats ≠ some 0
  | proxy target => target.WellFormed

theorem repeatsOf_ne_zero {j : Json} {n : UInt32} (h : repeatsOf j = .ok n) : n ≠ 0 := by
  unfold repeatsOf at h
  split at h
  · next i =>
    split at h
    · next range =>
      cases h
      have small : i.toNat < 4294967296 := by
        have := range.2
        have power : (twoTo 32 : Nat) = 4294967296 := by decide
        omega
      intro zero
      have := congrArg UInt32.toNat zero
      rw [UInt32.toNat_ofNat_of_lt' small] at this
      simp at this
      omega
    · cases h
  · cases h

theorem repeatsOf_nat {n : UInt32} (h : n ≠ 0) : repeatsOf (Json.nat n.toNat) = .ok n := by
  have positive : 0 < n.toNat := by
    rcases Nat.eq_zero_or_pos n.toNat with zero | positive
    · exact absurd (UInt32.toNat_inj.mp (by simpa using zero)) h
    · exact positive
  have small : n.toNat < twoTo 32 := n.toNat_lt
  have range : (0 : Int) < n.toNat ∧ (n.toNat : Int) < (twoTo 32 : Nat) := by omega
  simp [repeatsOf, Json.nat, range.2, Nat.ne_of_gt positive]

theorem takeRepeats_wellFormed {members left : Dict Json} (wf : (Json.obj members).WellFormed)
    {repeats : Option UInt32} (h : takeRepeats members = .ok (repeats, left)) :
    repeats ≠ some 0 ∧ (Json.obj left).WellFormed := by
  unfold takeRepeats at h
  split at h
  · obtain ⟨n, read, h⟩ := Except.bind_eq_ok.mp h
    cases h
    exact ⟨by simpa using repeatsOf_ne_zero read, wf.filter _⟩
  · dsimp only at h
    split at h
    · obtain ⟨n, read, h⟩ := Except.bind_eq_ok.mp h
      cases h
      exact ⟨by simpa using repeatsOf_ne_zero read, wf.filter _⟩
    · cases h
      exact ⟨by simp, wf.filter _⟩

theorem decode_wellFormed {j : Json} (wf : j.WellFormed) {r : ResponseDefinition}
    (h : decode j = .ok r) : r.WellFormed := by
  cases j with
  | obj members =>
    unfold decode at h
    obtain ⟨⟨repeats, left⟩, taken, h⟩ := Except.bind_eq_ok.mp h
    obtain ⟨positive, leftWf⟩ := takeRepeats_wellFormed wf taken
    dsimp only at h
    split at h
    · next target foundProxy =>
      split at h
      · next t read =>
        cases h
        exact ProxyTarget.decode_yields _ (leftWf.find? foundProxy) _ read
      · cases h
    · next response foundProxy foundIs =>
      split at h
      · next r read =>
        cases h
        exact ⟨LiteralResponse.decode_yields _ (leftWf.find? foundIs) _ read, positive⟩
      · cases h
    · cases h
    · cases h
      exact ⟨LiteralResponse.plain_wellFormed, positive⟩
  | _ => cases h

theorem decoder_yields : Decoder.Yields decoder WellFormed := by
  intro j wf r h
  unfold decoder at h
  split at h
  · next q read =>
    cases h
    exact decode_wellFormed wf read
  · cases h

/-- The fields of a canned response as they are written. -/
def writtenLiteral (response : LiteralResponse) (repeats : Option UInt32) :
    List (String × Option Json) :=
  [("is", some response.encode), ("repeat", repeats.map fun n => Json.nat n.toNat)]

theorem encode_literal (response : LiteralResponse) (repeats : Option UInt32) :
    encode (literal response repeats) =
      .obj (Dict.ofList (Fields.given (writtenLiteral response repeats))) := by
  cases repeats <;> rfl

theorem takeRepeats_literal (response : LiteralResponse) {repeats : Option UInt32}
    (positive : repeats ≠ some 0) :
    ∃ left, takeRepeats (Dict.ofList (Fields.given (writtenLiteral response repeats))) =
        .ok (repeats, left) ∧
      Dict.find? left "proxy" = none ∧ Dict.find? left "is" = some response.encode := by
  have found := Fields.find?_ofList_given (writtenLiteral response repeats)
    (by simp [writtenLiteral])
  generalize Dict.ofList (Fields.given (writtenLiteral response repeats)) = members at found
  have proxyAbsent : Dict.find? members "proxy" = none := found _
  have isThere : Dict.find? members "is" = some response.encode := found _
  cases repeats with
  | none =>
    have absent : Dict.find? members "repeat" = none := found _
    have olderAbsent : Dict.find? members "_behaviors" = none := found _
    refine ⟨Dict.erase members "_behaviors", ?_, ?_, ?_⟩
    · simp [takeRepeats, absent, olderAbsent]
    · simp [Dict.find?_erase, proxyAbsent]
    · simp [Dict.find?_erase, isThere]
  | some n =>
    have there : Dict.find? members "repeat" = some (Json.nat n.toNat) := found _
    refine ⟨Dict.erase members "repeat", ?_, ?_, ?_⟩
    · simp only [takeRepeats, there, repeatsOf_nat fun zero => positive (zero ▸ rfl)]
      rfl
    · simp [Dict.find?_erase, proxyAbsent]
    · simp [Dict.find?_erase, isThere]

theorem decode_encode {r : ResponseDefinition} (h : r.WellFormed) : decode r.encode = .ok r := by
  cases r with
  | literal response repeats =>
    obtain ⟨left, taken, proxyAbsent, isThere⟩ := takeRepeats_literal response h.2
    rw [encode_literal, decode, taken, Except.ok_bind]
    simp only [proxyAbsent, isThere, LiteralResponse.decode_encode h.1]
    rfl
  | proxy target =>
    have absent : takeRepeats [("proxy", target.encode)] =
        .ok (none, [("proxy", target.encode)]) := rfl
    rw [encode, decode, absent, Except.ok_bind]
    simp only [Dict.find?_cons_self, ProxyTarget.decode_encode]
    rfl

theorem decoder_encode {r : ResponseDefinition} (h : r.WellFormed) : decoder r.encode = .ok r := by
  simp only [decoder, decode_encode h]

/-- A response that is to be served zero times in a row is written in a form that is not read. -/
theorem decoder_zero (response : LiteralResponse) (r : ResponseDefinition) :
    decoder (encode (literal response (some 0))) ≠ .ok r := by
  have there : Dict.find? (Dict.ofList (Fields.given (writtenLiteral response (some 0)))) "repeat" =
      some (Json.nat 0) :=
    Fields.find?_ofList_given (writtenLiteral response (some 0)) (by simp [writtenLiteral]) _
  have refused : repeatsOf (Json.nat 0) =
      .error (.invalidResponse (.badRepeat (Json.nat 0))) := rfl
  rw [encode_literal, decoder, decode, takeRepeats, there]
  simp only [refused]
  exact nofun

theorem same_self {r : ResponseDefinition} (h : r.WellFormed) : r.same r = true := by
  cases r with
  | literal response repeats => simp [same, LiteralResponse.same_self h.1]
  | proxy target => exact ProxyTarget.same_self h

end ResponseDefinition

end VirtualService
