/-
  VirtualService/Stub/Definition.lean
  ===================================
  **Stubs as they are authored.**

  A stub answers the requests that all of its predicates recognise with its
  responses in turn.  An export may add the requests it has answered.
-/
import VirtualService.Response.Definition
import VirtualService.Request
import VirtualService.Timestamp

namespace VirtualService

/-- A request and the response that a stub gave to it. -/
structure MatchRecord where
  time : Timestamp
  request : Request
  response : LiteralResponse
deriving Repr, Inhabited

/-- An authored stub. -/
structure StubDefinition where
  predicates : List Predicate
  responses : List ResponseDefinition
  /-- The requests answered, in an export only. -/
  records : List MatchRecord
deriving Repr, Inhabited

namespace MatchRecord

/-- Equality, in which numbers compare by value. -/
def same (a b : MatchRecord) : Bool :=
  a.time == b.time && Json.sameMembers a.request b.request && a.response.same b.response

def encode (r : MatchRecord) : Json :=
  .ofPairs
    [("timestamp", r.time.encode), ("request", .obj r.request), ("response", r.response.encode)]

def decode : Decoder MatchRecord := fun j => do
  let fields ← Fields.ofJson "MatchRecord" ["timestamp", "request", "response"] j
  let time := fields.read "timestamp" Timestamp.decode
  let request := fields.read "request" Decoder.map
  let response := fields.read "response" LiteralResponse.decode
  fields.firstFault
    [Fields.fault "timestamp" time, Fields.fault "request" request,
     Fields.fault "response" response]
  let time ← fields.require "timestamp" (← time)
  let request ← fields.require "request" (← request)
  let response ← fields.require "response" (← response)
  fields.finish
  return ⟨time, request, response⟩

end MatchRecord

namespace StubDefinition

/-- Some response is a proxy. -/
def hasProxy (d : StubDefinition) : Bool := d.responses.any ResponseDefinition.isProxy

def sameResponses : List ResponseDefinition → List ResponseDefinition → Bool
  | [], [] => true
  | r :: rs, s :: ss => r.same s && sameResponses rs ss
  | _, _ => false

def sameRecords : List MatchRecord → List MatchRecord → Bool
  | [], [] => true
  | r :: rs, s :: ss => r.same s && sameRecords rs ss
  | _, _ => false

/-- Equality, in which numbers compare by value. -/
def same (a b : StubDefinition) : Bool :=
  Predicate.sameAll a.predicates b.predicates && sameResponses a.responses b.responses &&
    sameRecords a.records b.records

def encode (d : StubDefinition) : Json :=
  .ofPairs <|
    (if d.predicates.isEmpty then []
      else [("predicates", .arr (Predicate.encodeAll d.predicates))]) ++
    ("responses", .arr (d.responses.map ResponseDefinition.encode)) ::
    (if d.records.isEmpty then [] else [("matches", .arr (d.records.map MatchRecord.encode))])

def decode : Decoder StubDefinition := fun j => do
  let fields ← Fields.ofJson "StubDefinition" ["predicates", "responses", "matches"] j
  let predicates := fields.readOr "predicates" (Decoder.list Predicate.decoder) []
  let responses := fields.readOr "responses" (Decoder.list ResponseDefinition.decoder) []
  let records := fields.readOr "matches" (Decoder.list MatchRecord.decode) []
  fields.firstFault
    [Fields.fault "predicates" predicates, Fields.fault "responses" responses,
     Fields.fault "matches" records]
  fields.finish
  return ⟨← predicates, ← responses, ← records⟩

end StubDefinition

end VirtualService
