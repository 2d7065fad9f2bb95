/-
  VirtualService/Imposter/Definition.lean
  =======================================
  **Imposters as they are authored and exported.**

  An imposter stands in for a service on a port.  An export that is not for replay
  adds what the imposter has seen.
-/
import VirtualService.Stub.Definition

namespace VirtualService

/-- A request that an imposter has seen. -/
structure RecordedRequest where
  time : Timestamp
  request : Request
deriving Repr, Inhabited

/-- An authored imposter. -/
structure ImposterDefinition where
  port : UInt16
  protocol : String
  name : Option String
  recordRequests : Bool
  /-- Whether each stub keeps the requests it answers. -/
  recordMatches : Bool
  /-- The response where no stub answers. -/
  defaultResponse : Option LiteralResponse
  stubs : List StubDefinition
  /-- The number of requests seen, in an export only. -/
  requestCount : Option UInt64
  /-- The requests seen, in an export only. -/
  requests : List RecordedRequest
deriving Repr, Inhabited

/-- What an export leaves out. -/
structure ExportOptions where
  /-- Leave out what the imposter has seen. -/
  replayable : Bool
  /-- Leave out proxies, and stubs that have nothing else. -/
  removeProxies : Bool
deriving DecidableEq, Repr, Inhabited

namespace RecordedRequest

/-- Equality, in which numbers compare by value. -/
def same (a b : RecordedRequest) : Bool :=
  a.time == b.time && Json.sameMembers a.request b.request

/-- The fields of the request beside the time; a field called `timestamp` takes its place. -/
def encode (r : RecordedRequest) : Json :=
  .ofPairs (("timestamp", r.time.encode) :: r.request)

def decode : Decoder RecordedRequest := fun j => do
  let members ← Fields.membersOf "RecordedRequest" j
  let fields := Fields.named members
  let time ← fields.read "timestamp" Timestamp.decode
  let time ← fields.require "timestamp" time
  return ⟨time, Dict.erase members "timestamp"⟩

end RecordedRequest

namespace ImposterDefinition

def sameStubs : List StubDefinition → List StubDefinition → Bool
  | [], [] => true
  | s :: ss, t :: ts => s.same t && sameStubs ss ts
  | _, _ => false

def sameRequests : List RecordedRequest → List RecordedRequest → Bool
  | [], [] => true
  | r :: rs, q :: qs => r.same q && sameRequests rs qs
  | _, _ => false

/-- Equality, in which numbers compare by value. -/
def same (a b : ImposterDefinition) : Bool :=
  a.port == b.port && a.protocol == b.protocol && a.name == b.name &&
    a.recordRequests == b.recordRequests && a.recordMatches == b.recordMatches &&
    (match a.defaultResponse, b.defaultResponse with
      | none, none => true
      | some r, some s => r.same s
      | _, _ => false) &&
    sameStubs a.stubs b.stubs && a.requestCount == b.requestCount &&
    sameRequests a.requests b.requests

def encode (d : ImposterDefinition) : Json :=
  .ofPairs <|
    [("port", Json.nat d.port.toNat), ("protocol", .str d.protocol)] ++
    (match d.name with
      | none => []
      | some name => [("name", .str name)]) ++
    [("recordRequests", .bool d.recordRequests), ("recordMatches", .bool d.recordMatches)] ++
    (match d.defaultResponse with
      | none => []
      | some response => [("defaultResponse", response.encode)]) ++
    [("stubs", .arr (d.stubs.map StubDefinition.encode))] ++
    (match d.requestCount with
      | none => []
      | some n => [("numberOfRequests", Json.nat n.toNat)]) ++
    (if d.requests.isEmpty then []
      else [("requests", .arr (d.requests.map RecordedRequest.encode))])

/-- The fields in the order in which an array gives them. -/
def declared : List String :=
  ["port", "protocol", "name", "recordRequests", "recordMatches", "defaultResponse", "stubs",
   "numberOfRequests", "requests"]

def decode : Decoder ImposterDefinition := fun j => do
  let fields ← Fields.ofJson "ImposterDefinition" declared j
  let port := fields.read "port" Decoder.word16
  let protocol := fields.readOr "protocol" Decoder.text "http"
  let name := fields.readOption "name" Decoder.text
  let recordRequests := fields.readOr "recordRequests" Decoder.bool false
  let recordMatches := fields.readOr "recordMatches" Decoder.bool false
  let defaultResponse := fields.readOption "defaultResponse" LiteralResponse.decode
  let stubs := fields.readOr "stubs" (Decoder.list StubDefinition.decode) []
  let requestCount := fields.readOption "numberOfRequests" Decoder.word64
  let requests := fields.readOr "requests" (Decoder.list RecordedRequest.decode) []
  fields.firstFault
    [Fields.fault "port" port, Fields.fault "protocol" protocol, Fields.fault "name" name,
     Fields.fault "recordRequests" recordRequests, Fields.fault "recordMatches" recordMatches,
     Fields.fault "defaultResponse" defaultResponse, Fields.fault "stubs" stubs,
     Fields.fault "numberOfRequests" requestCount, Fields.fault "requests" requests]
  let port ← fields.require "port" (← port)
  fields.finish
  return {
    port := port
    protocol := ← protocol
    name := ← name
    recordRequests := ← recordRequests
    recordMatches := ← recordMatches
    defaultResponse := ← defaultResponse
    stubs := ← stubs
    requestCount := ← requestCount
    requests := ← requests }

end ImposterDefinition

namespace ExportOptions

/-- Nothing is left out. -/
def full : ExportOptions := ⟨false, false⟩

def decode : Decoder ExportOptions := fun j => do
  let fields ← Fields.ofJson "ExportOptions" ["replayable", "removeProxies"] j
  let replayable := fields.readOr "replayable" Decoder.bool false
  let removeProxies := fields.readOr "removeProxies" Decoder.bool false
  fields.firstFault
    [Fields.fault "replayable" replayable, Fields.fault "removeProxies" removeProxies]
  fields.finish
  return ⟨← replayable, ← removeProxies⟩

end ExportOptions

end VirtualService
