/-
  VirtualService/Proofs/WireFormat.lean
  =====================================
  **What is read is written so that it reads back.**

  The lemmas for stubs and imposters, put together from those of their parts, and
  the round trip of any imposter that was read.
-/
import VirtualService.Imposter.Definition
import VirtualService.Proofs.Timestamp
import VirtualService.Proofs.WireFormat.Response

namespace VirtualService

/-! ### Stubs -/

namespace MatchRecord

/-- The time, the request and the response are well-formed. -/
structure WellFormed (r : MatchRecord) : Prop where
  time : r.time.WellFormed
  request : (Json.obj r.request).WellFormed
  response : r.response.WellFormed

theorem decode_yields : Decoder.Yields decode WellFormed := by
  intro j wf r h
  unfold decode at h
  obtain ⟨fields, opened, h⟩ := Except.bind_eq_ok.mp h
  have fieldsWf := Fields.yields_ofJson _ _ j wf fields opened
  obtain ⟨⟨⟩, -, h⟩ := Except.bind_eq_ok.mp h
  obtain ⟨time?, readTime, h⟩ := Except.bind_eq_ok.mp h
  obtain ⟨time, timeThere, h⟩ := Except.bind_eq_ok.mp h
  obtain ⟨request?, readRequest, h⟩ := Except.bind_eq_ok.mp h
  obtain ⟨request, requestThere, h⟩ := Except.bind_eq_ok.mp h
  obtain ⟨response?, readResponse, h⟩ := Except.bind_eq_ok.mp h
  obtain ⟨response, responseThere, h⟩ := Except.bind_eq_ok.mp h
  obtain ⟨⟨⟩, -, h⟩ := Except.bind_eq_ok.mp h
  cases h
  exact ⟨Fields.read_yields fieldsWf Timestamp.decode_yields readTime _
      (Fields.require_eq_ok timeThere),
    Fields.read_yields fieldsWf Decoder.yields_map readRequest _
      (Fields.require_eq_ok requestThere),
    Fields.read_yields fieldsWf LiteralResponse.decode_yields readResponse _
      (Fields.require_eq_ok responseThere)⟩

/-- The fields as they are written. -/
def written (r : MatchRecord) : List (String × Option Json) :=
  [("timestamp", some r.time.encode), ("request", some (.obj r.request)),
   ("response", some r.response.encode)]

theorem decode_encode {r : MatchRecord} (h : r.WellFormed) : decode r.encode = .ok r := by
  rw [show r.encode = .obj (Dict.ofList (Fields.given r.written)) from rfl]
  have found := Fields.find?_ofList_given r.written (by simp [written])
  generalize Dict.ofList (Fields.given r.written) = members at found
  have time : (Fields.named members).read "timestamp" Timestamp.decode = .ok (some r.time) :=
    Fields.read_named (o := some r.time) Timestamp.encode (found _)
      (by rintro _ ⟨⟩; exact Timestamp.decode_encode h.time)
  have request : (Fields.named members).read "request" Decoder.map = .ok (some r.request) :=
    Fields.read_named (o := some r.request) .obj (found _) fun _ _ => rfl
  have response : (Fields.named members).read "response" LiteralResponse.decode =
      .ok (some r.response) :=
    Fields.read_named (o := some r.response) LiteralResponse.encode (found _)
      (by rintro _ ⟨⟩; exact LiteralResponse.decode_encode h.response)
  simp only [decode, Fields.ofJson, Except.ok_bind, time, request, response]
  rw [Fields.firstFault_eq_ok _ (by simp [Fields.fault])]
  rfl

theorem same_self {r : MatchRecord} (h : r.WellFormed) : r.same r = true := by
  simp [same, Json.sameMembers_self _ h.request.2, LiteralResponse.same_self h.response]

end MatchRecord

namespace StubDefinition

/-- Predicates, responses and records are well-formed. -/
structure WellFormed (d : StubDefinition) : Prop where
  predicates : ∀ p ∈ d.predicates, p.WellFormed
  responses : ∀ r ∈ d.responses, r.WellFormed
  records : ∀ r ∈ d.records, r.WellFormed

/-- What is read of a stub has been read of its fields. -/
theorem decode_fields {j : Json} {d : StubDefinition} (h : decode j = .ok d) :
    ∃ fields, Fields.ofJson "StubDefinition" ["predicates", "responses", "matches"] j = .ok fields ∧
      fields.readOr "predicates" (Decoder.list Predicate.decoder) [] = .ok d.predicates ∧
      fields.readOr "responses" (Decoder.list ResponseDefinition.decoder) [] = .ok d.responses ∧
      fields.readOr "matches" (Decoder.list MatchRecord.decode) [] = .ok d.records := by
  unfold decode at h
  obtain ⟨fields, opened, h⟩ := Except.bind_eq_ok.mp h
  obtain ⟨⟨⟩, -, h⟩ := Except.bind_eq_ok.mp h
  obtain ⟨⟨⟩, -, h⟩ := Except.bind_eq_ok.mp h
  obtain ⟨predicates, readPredicates, h⟩ := Except.bind_eq_ok.mp h
  obtain ⟨responses, readResponses, h⟩ := Except.bind_eq_ok.mp h
  obtain ⟨records, readRecords, h⟩ := Except.bind_eq_ok.mp h
  cases h
  exact ⟨fields, opened, readPredicates, readResponses, readRecords⟩

theorem decode_yields : Decoder.Yields decode WellFormed := by
  intro j wf d h
  obtain ⟨fields, opened, predicates, responses, records⟩ := decode_fields h
  have fieldsWf := Fields.yields_ofJson _ _ j wf fields opened
  exact ⟨Fields.readOr_yields fieldsWf Predicate.decoder_yields.list (by simp) predicates,
    Fields.readOr_yields fieldsWf ResponseDefinition.decoder_yields.list (by simp) responses,
    Fields.readOr_yields fieldsWf MatchRecord.decode_yields.list (by simp) records⟩

/-- The fields as they are written. -/
def written (d : StubDefinition) : List (String × Option Json) :=
  [("predicates",
    if d.predicates.isEmpty then none else some (.arr (d.predicates.map Predicate.encode))),
   ("responses", some (.arr (d.responses.map ResponseDefinition.encode))),
   ("matches", if d.records.isEmpty then none else some (.arr (d.records.map MatchRecord.encode)))]

theorem encode_eq (d : StubDefinition) : d.encode = .ofPairs (Fields.given d.written) := by
  obtain ⟨predicates, responses, records⟩ := d
  rw [encode, Predicate.encodeAll_eq_map]
  cases predicates <;> cases records <;> rfl

theorem decode_encode {d : StubDefinition} (h : d.WellFormed) : decode d.encode = .ok d := by
  rw [encode_eq, Json.ofPairs]
  have found := Fields.find?_ofList_given d.written (by simp [written])
  generalize Dict.ofList (Fields.given d.written) = members at found
  have predicates : (Fields.named members).readOr "predicates" (Decoder.list Predicate.decoder) [] =
      .ok d.predicates :=
    Fields.readOr_named_nil (fun ps => .arr (ps.map Predicate.encode)) (found _)
      (Decoder.list_map fun p _ => p.decoder_encode)
  have responses : (Fields.named members).readOr "responses"
      (Decoder.list ResponseDefinition.decoder) [] = .ok d.responses :=
    Fields.readOr_named (o := some d.responses) (fun rs => .arr (rs.map ResponseDefinition.encode))
      (found _) (by
        rintro _ ⟨⟩
        exact Decoder.list_map fun r mem => ResponseDefinition.decoder_encode (h.responses r mem))
  have records : (Fields.named members).readOr "matches" (Decoder.list MatchRecord.decode) [] =
      .ok d.records :=
    Fields.readOr_named_nil (fun rs => .arr (rs.map MatchRecord.encode)) (found _)
      (Decoder.list_map fun r mem => MatchRecord.decode_encode (h.records r mem))
  simp only [decode, Fields.ofJson, Except.ok_bind, predicates, responses, records]
  rw [Fields.firstFault_eq_ok _ (by simp [Fields.fault])]
  rfl

/-- A written stub is read only if its responses are. -/
theorem decode_responses {d d' : StubDefinition} (read : decode d.encode = .ok d') :
    ∀ r ∈ d.responses, ∃ r', ResponseDefinition.decoder r.encode = .ok r' := by
  rw [encode_eq, Json.ofPairs] at read
  obtain ⟨_, ⟨⟩, -, responses, -⟩ := decode_fields read
  have there : (Fields.named (Dict.ofList (Fields.given d.written))).find? "responses" =
      some (.arr (d.responses.map ResponseDefinition.encode)) :=
    Fields.find?_ofList_given d.written (by simp [written]) _
  have listed : (d.responses.map ResponseDefinition.encode).mapM ResponseDefinition.decoder =
      .ok d'.responses := Fields.decode_of_readOr there responses
  exact fun r mem => ok_of_mapM_eq_ok listed _ (List.mem_map_of_mem mem)

theorem same_self {d : StubDefinition} (h : d.WellFormed) : d.same d = true := by
  have predicates : Predicate.sameAll d.predicates d.predicates = true :=
    itemwise_self rfl (fun _ _ _ _ => rfl) fun p mem => p.same_self (h.predicates p mem)
  have responses : sameResponses d.responses d.responses = true :=
    itemwise_self rfl (fun _ _ _ _ => rfl) fun r mem =>
      ResponseDefinition.same_self (h.responses r mem)
  have records : sameRecords d.records d.records = true :=
    itemwise_self rfl (fun _ _ _ _ => rfl) fun r mem => MatchRecord.same_self (h.records r mem)
  rw [same, predicates, responses, records]
  rfl

end StubDefinition

/-! ### Imposters -/

namespace RecordedRequest

/-- The request has no member called `timestamp`, since that is where the time is written. -/
structure WellFormed (r : RecordedRequest) : Prop where
  time : r.time.WellFormed
  request : (Json.obj r.request).WellFormed
  untimed : Dict.find? r.request "timestamp" = none

theorem decode_yields : Decoder.Yields decode WellFormed := by
  intro j wf r h
  unfold decode at h
  obtain ⟨members, opened, h⟩ := Except.bind_eq_ok.mp h
  have membersWf := Fields.yields_membersOf _ j wf members opened
  have fieldsWf : (Fields.named members).WellFormed := membersWf
  obtain ⟨time?, readTime, h⟩ := Except.bind_eq_ok.mp h
  obtain ⟨time, timeThere, h⟩ := Except.bind_eq_ok.mp h
  cases h
  refine ⟨Fields.read_yields fieldsWf Timestamp.decode_yields readTime _
    (Fields.require_eq_ok timeThere), membersWf.filter _, ?_⟩
  simp [Dict.find?_erase]

/-- The field beside the request as it is written. -/
def written (r : RecordedRequest) : List (String × Option Json) :=
  [("timestamp", some r.time.encode)]

theorem decode_encode {r : RecordedRequest} (h : r.WellFormed) : decode r.encode = .ok r := by
  rw [show r.encode = .obj (Dict.ofList (Fields.given r.written ++ r.request)) from rfl]
  have found := Fields.find?_ofList_given_append r.written (by simp [written]) h.request.1
  have sorted := Dict.sorted_ofList (Fields.given r.written ++ r.request)
  generalize Dict.ofList (Fields.given r.written ++ r.request) = members at found sorted
  have timeThere : Dict.find? members "timestamp" = some r.time.encode := by
    rw [found, h.untimed]
    rfl
  have time : (Fields.named members).read "timestamp" Timestamp.decode = .ok (some r.time) :=
    Fields.read_named (o := some r.time) Timestamp.encode timeThere
      (by rintro _ ⟨⟩; exact Timestamp.decode_encode h.time)
  -- the time is written among the members of the request, and taken out of them again
  have request : Dict.erase members "timestamp" = r.request := by
    refine Dict.ext_of_sorted (Dict.sorted_erase sorted _) h.request.1 fun name => ?_
    rw [Dict.find?_erase, found]
    by_cases timed : name = "timestamp"
    · rw [if_pos timed, timed, h.untimed]
    · simp [timed, written, Fields.valueOf?, Ne.symm timed]
  simp only [decode, Fields.membersOf, Except.ok_bind, time, request]
  rfl

theorem same_self {r : RecordedRequest} (h : r.WellFormed) : r.same r = true := by
  simp [same, Json.sameMembers_self _ h.request.2]

end RecordedRequest

namespace ImposterDefinition

/-- The default response, the stubs and the requests are well-formed. -/
structure WellFormed (d : ImposterDefinition) : Prop where
  defaultResponse : ∀ r ∈ d.defaultResponse, r.WellFormed
  stubs : ∀ s ∈ d.stubs, s.WellFormed
  requests : ∀ r ∈ d.requests, r.WellFormed

/-- What is read of an imposter has been read of its fields. -/
theorem decode_fields {j : Json} {d : ImposterDefinition} (h : decode j = .ok d) :
    ∃ fields, Fields.ofJson "ImposterDefinition" declared j = .ok fields ∧
      fields.readOption "defaultResponse" LiteralResponse.decode = .ok d.defaultResponse ∧
      fields.readOr "stubs" (Decoder.list StubDefinition.decode) [] = .ok d.stubs ∧
      fields.readOr "requests" (Decoder.list RecordedRequest.decode) [] = .ok d.requests := by
  unfold decode at h
  obtain ⟨fields, opened, h⟩ := Except.bind_eq_ok.mp h
  obtain ⟨⟨⟩, -, h⟩ := Except.bind_eq_ok.mp h
  obtain ⟨port?, -, h⟩ := Except.bind_eq_ok.mp h
  obtain ⟨port, -, h⟩ := Except.bind_eq_ok.mp h
  obtain ⟨⟨⟩, -, h⟩ := Except.bind_eq_ok.mp h
  obtain ⟨protocol, -, h⟩ := Except.bind_eq_ok.mp h
  obtain ⟨name, -, h⟩ := Except.bind_eq_ok.mp h
  obtain ⟨recordRequests, -, h⟩ := Except.bind_eq_ok.mp h
  obtain ⟨recordMatches, -, h⟩ := Except.bind_eq_ok.mp h
  obtain ⟨defaultResponse, readDefault, h⟩ := Except.bind_eq_ok.mp h
  obtain ⟨stubs, readStubs, h⟩ := Except.bind_eq_ok.mp h
  obtain ⟨requestCount, -, h⟩ := Except.bind_eq_ok.mp h
  obtain ⟨requests, readRequests, h⟩ := Except.bind_eq_ok.mp h
  cases h
  exact ⟨fields, opened, readDefault, readStubs, readRequests⟩

theorem decode_yields : Decoder.Yields decode WellFormed := by
  intro j wf d h
  obtain ⟨fields, opened, defaultResponse, stubs, requests⟩ := decode_fields h
  have fieldsWf := Fields.yields_ofJson _ _ j wf fields opened
  exact ⟨Fields.readOption_yields fieldsWf LiteralResponse.decode_yields defaultResponse,
    Fields.readOr_yields fieldsWf StubDefinition.decode_yields.list (by simp) stubs,
    Fields.readOr_yields fieldsWf RecordedRequest.decode_yields.list (by simp) requests⟩

/-- The fields as they are written. -/
def written (d : ImposterDefinition) : List (String × Option Json) :=
  [("port", some (Json.nat d.port.toNat)), ("protocol", some (.str d.protocol)),
   ("name", d.name.map Json.str), ("recordRequests", some (.bool d.recordRequests)),
   ("recordMatches", some (.bool d.recordMatches)),
   ("defaultResponse", d.defaultResponse.map LiteralResponse.encode),
   ("stubs", some (.arr (d.stubs.map StubDefinition.encode))),
   ("numberOfRequests", d.requestCount.map fun n => Json.nat n.toNat),
   ("requests",
    if d.requests.isEmpty then none else some (.arr (d.requests.map RecordedRequest.encode)))]

theorem encode_eq (d : ImposterDefinition) : d.encode = .ofPairs (Fields.given d.written) := by
  obtain ⟨port, protocol, name, recordRequests, recordMatches, defaultResponse, stubs, requestCount,
    requests⟩ := d
  cases name <;> cases defaultResponse <;> cases requestCount <;> cases requests <;> rfl

theorem decode_encode {d : ImposterDefinition} (h : d.WellFormed) : decode d.encode = .ok d := by
  rw [encode_eq, Json.ofPairs]
  have found := Fields.find?_ofList_given d.written (by simp [written])
  generalize Dict.ofList (Fields.given d.written) = members at found
  have port : (Fields.named members).read "port" Decoder.word16 = .ok (some d.port) :=
    Fields.read_named (o := some d.port) (fun port => Json.nat port.toNat) (found _)
      (fun n _ => by exact Decoder.word16_nat n)
  have protocol : (Fields.named members).readOr "protocol" Decoder.text "http" = .ok d.protocol :=
    Fields.readOr_named (o := some d.protocol) .str (found _) fun _ _ => rfl
  have name : (Fields.named members).readOption "name" Decoder.text = .ok d.name :=
    Fields.readOption_named .str (found _) (fun _ _ => rfl) (by simp)
  have recordRequests : (Fields.named members).readOr "recordRequests" Decoder.bool false =
      .ok d.recordRequests :=
    Fields.readOr_named (o := some d.recordRequests) .bool (found _) fun _ _ => rfl
  have recordMatches : (Fields.named members).readOr "recordMatches" Decoder.bool false =
      .ok d.recordMatches :=
    Fields.readOr_named (o := some d.recordMatches) .bool (found _) fun _ _ => rfl
  have defaultResponse : (Fields.named members).readOption "defaultResponse"
      LiteralResponse.decode = .ok d.defaultResponse :=
    Fields.readOption_named LiteralResponse.encode (found _)
      (fun r mem => LiteralResponse.decode_encode (h.defaultResponse r mem))
      fun r _ => r.encode_ne_null
  have stubs : (Fields.named members).readOr "stubs" (Decoder.list StubDefinition.decode) [] =
      .ok d.stubs :=
    Fields.readOr_named (o := some d.stubs) (fun ds => .arr (ds.map StubDefinition.encode))
      (found _) (by
        rintro _ ⟨⟩
        exact Decoder.list_map fun s mem => StubDefinition.decode_encode (h.stubs s mem))
  have requestCount : (Fields.named members).readOption "numberOfRequests" Decoder.word64 =
      .ok d.requestCount :=
    Fields.readOption_named (fun n => Json.nat n.toNat) (found _)
      (fun n _ => by exact Decoder.word64_nat n) (by simp [Json.nat])
  have requests : (Fields.named members).readOr "requests" (Decoder.list RecordedRequest.decode) [] =
      .ok d.requests :=
    Fields.readOr_named_nil (fun rs => .arr (rs.map RecordedRequest.encode)) (found _)
      (Decoder.list_map fun r mem => RecordedRequest.decode_encode (h.requests r mem))
  simp only [decode, Fields.ofJson, Except.ok_bind, port, protocol, name, recordRequests,
    recordMatches, defaultResponse, stubs, requestCount, requests]
  rw [Fields.firstFault_eq_ok _ (by simp [Fields.fault])]
  rfl

/-- A written imposter is read only if its stubs are. -/
theorem decode_stubs {d d' : ImposterDefinition} (read : decode d.encode = .ok d') :
    ∀ s ∈ d.stubs, ∃ s', StubDefinition.decode s.encode = .ok s' := by
  rw [encode_eq, Json.ofPairs] at read
  obtain ⟨_, ⟨⟩, -, stubs, -⟩ := decode_fields read
  have there : (Fields.named (Dict.ofList (Fields.given d.written))).find? "stubs" =
      some (.arr (d.stubs.map StubDefinition.encode)) :=
    Fields.find?_ofList_given d.written (by simp [written]) _
  have listed : (d.stubs.map StubDefinition.encode).mapM StubDefinition.decode = .ok d'.stubs :=
    Fields.decode_of_readOr there stubs
  exact fun s mem => ok_of_mapM_eq_ok listed _ (List.mem_map_of_mem mem)

/-- A written imposter is not read if one of its responses is to be served zero times in a row. -/
theorem unread_of_zero {d d' : ImposterDefinition} {s : StubDefinition} (mem : s ∈ d.stubs)
    {response : LiteralResponse} (zero : .literal response (some 0) ∈ s.responses) :
    decode d.encode ≠ .ok d' := by
  intro read
  obtain ⟨s', readStub⟩ := decode_stubs read s mem
  obtain ⟨r, readResponse⟩ := StubDefinition.decode_responses readStub _ zero
  exact ResponseDefinition.decoder_zero response r readResponse

theorem same_self {d : ImposterDefinition} (h : d.WellFormed) : d.same d = true := by
  have stubs : sameStubs d.stubs d.stubs = true :=
    itemwise_self rfl (fun _ _ _ _ => rfl) fun s mem => StubDefinition.same_self (h.stubs s mem)
  have requests : sameRequests d.requests d.requests = true :=
    itemwise_self rfl (fun _ _ _ _ => rfl) fun r mem =>
      RecordedRequest.same_self (h.requests r mem)
  cases default : d.defaultResponse with
  | none => simp [same, stubs, requests, default]
  | some r =>
    simp [same, stubs, requests, default, LiteralResponse.same_self (h.defaultResponse r default)]

/-- Reading a value and writing what was read. -/
def rewritten (j : Json) : Except DecodeError Json := (decode j).map encode

/-- What is read from any well-formed value, and texts stand for no others (`Json.ofText_wellFormed`),
    is written so that it reads back as itself; and so to read and write a second time changes
    nothing. -/
theorem written_form_reads_back {j : Json} (wf : j.WellFormed) {d : ImposterDefinition}
    (h : decode j = .ok d) :
    decode d.encode = .ok d ∧ d.same d = true ∧
      rewritten j = .ok d.encode ∧ rewritten d.encode = .ok d.encode := by
  have dWf : d.WellFormed := decode_yields j wf d h
  have back := decode_encode dWf
  refine ⟨back, same_self dWf, ?_, ?_⟩
  · rw [rewritten, h]
    rfl
  · rw [rewritten, back]
    rfl

/-- An imposter in spellings that are never written: fields in the order of an array, null for no
    name, the older form of repetitions, an empty object for a plain response. -/
def otherSpelling : Json :=
  .arr [.num (.int 4545), .str "http", .null, .bool false, .bool true, .null,
    .arr [.arr [
      .arr [.obj [("not", .obj [("inject", .str "f")])]],
      .arr [
        .obj [("_behaviors", .obj [("repeat", .num (.int 3))])],
        .obj [("proxy", .arr [.str "http://origin", .str "proxyAlways"])]]]]]

/-- What that imposter is. -/
def otherMeaning : ImposterDefinition where
  port := 4545
  protocol := "http"
  name := none
  recordRequests := false
  recordMatches := true
  defaultResponse := none
  stubs := [{
    predicates := [.negation (.script "f")]
    responses := [.literal .plain (some 3), .proxy (.bare "http://origin" .always)]
    records := [] }]
  requestCount := none
  requests := []

theorem other_spelling_reads_back :
    otherSpelling.WellFormed ∧ decode otherSpelling = .ok otherMeaning ∧
      decode otherMeaning.encode = .ok otherMeaning ∧ otherMeaning.same otherMeaning = true ∧
      rewritten otherSpelling = .ok otherMeaning.encode ∧
      rewritten otherMeaning.encode = .ok otherMeaning.encode := by
  have wf : otherSpelling.WellFormed := by
    simp [otherSpelling, Json.WellFormed, Json.WellFormedItems, Json.WellFormedMembers, Dict.Sorted,
      Dict.Above, Number.WellFormed]
  have read : decode otherSpelling = .ok otherMeaning := rfl
  exact ⟨wf, read, written_form_reads_back wf read⟩

end ImposterDefinition

end VirtualService
