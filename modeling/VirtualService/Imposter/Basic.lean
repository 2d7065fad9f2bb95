/-
  VirtualService/Imposter/Basic.lean
  ==================================
  **An imposter and its log.**

  An imposter is built from a definition, all of whose stubs must compile.  It
  counts the requests it accepts, keeps them if it is to, and accepts none once it
  is closed.

  `build` is `from_definition` of an `Imposter`, `accept` is
  `increment_request_count` with `record_request`, `edit` is `apply` of the store
  that it gives out, and `exported` is `export`.
-/
import VirtualService.Imposter.Definition
import VirtualService.Stub.Command

namespace VirtualService

/-- What is at an imposter's disposal. -/
structure Capabilities where
  /-- Proxies can reach their origins. -/
  brokered : Bool
  /-- Scripts may decide: there is an injector, for the language of `Script.Program`. -/
  scripts : Bool
  /-- How long an origin may take, in milliseconds. -/
  timeoutMs : Nat
deriving DecidableEq, Repr, Inhabited

/-- A running imposter. -/
structure Imposter where
  port : UInt16
  protocol : String
  name : Option String
  recordRequests : Bool
  recordMatches : Bool
  defaultResponse : LiteralResponse
  capabilities : Capabilities
  store : Store
  requests : List RecordedRequest
  /-- How many requests were accepted.  The service counts in a word of 64 bits; that it may wrap after
      `2^64` requests is set aside until the number is exported. -/
  count : Nat
  closed : Bool

/-- Why there is no imposter for an undertaking. -/
inductive ImposterError where
  | portInUse (port : UInt16)
  | notFound (port : UInt16)
  | closed (port : UInt16)
  | invalidDefinition (cause : StoreError)
deriving Repr

def ImposterError.message : ImposterError → String
  | portInUse port => "Port " ++ (Number.int port.toNat).text ++ " is already in use"
  | notFound port => "Imposter not found on port " ++ (Number.int port.toNat).text
  | closed port => "Imposter on port " ++ (Number.int port.toNat).text ++ " is closed"
  | invalidDefinition cause => "Invalid imposter definition: " ++ cause.message

namespace Imposter

/-- Build an imposter; a fault in any stub refuses the whole definition. -/
def build (c : Capabilities) (d : ImposterDefinition) : Except ImposterError Imposter :=
  match (Store.empty c.scripts).apply (.replaceAll d.stubs) with
  | (.error e, _) => .error (.invalidDefinition e)
  | (.ok _, store) => .ok {
      port := d.port
      protocol := d.protocol
      name := d.name
      recordRequests := d.recordRequests
      recordMatches := d.recordMatches
      defaultResponse := d.defaultResponse.getD .plain
      capabilities := c
      store := store
      requests := []
      count := 0
      closed := false }

/-- Count a request that is accepted, and keep it if requests are kept. -/
def accept (i : Imposter) (now : Timestamp) (request : Request) : Imposter :=
  { i with
    count := i.count + 1
    requests := if i.recordRequests then i.requests ++ [⟨now, request⟩] else i.requests }

/-- Forget the requests and their number. -/
def clearRequests (i : Imposter) : Imposter := { i with requests := [], count := 0 }

/-- Accept no more requests. -/
def close (i : Imposter) : Imposter := { i with closed := true }

/-- Apply a command to the stubs. -/
def edit (i : Imposter) (command : StoreCommand) : Except StoreError StoreChange × Imposter :=
  let (result, store) := i.store.apply command
  (result, { i with store := store })

/-- The imposter in one line. -/
def summary (i : Imposter) : String :=
  let name := match i.name with
    | none => "None"
    | some name => "Some(" ++ quotedText name ++ ")"
  "Imposter \x7b port: " ++ (Number.int i.port.toNat).text ++
    ", protocol: " ++ quotedText i.protocol ++ ", name: " ++ name ++
    ", stubs: " ++ (Number.int i.store.stubs.length).text ++
    ", closed: " ++ (if i.closed then "true" else "false") ++ " \x7d"

/-! ### Export -/

/-- The definition of a stub in an export, unless nothing is left of it. -/
def exportStub (i : Imposter) (o : ExportOptions) (stub : Stub) : Option StubDefinition :=
  let d := stub.definition
  let responses := if o.removeProxies then d.responses.filter fun r => !r.isProxy else d.responses
  if o.removeProxies && responses.isEmpty then none
  else
    let records := if o.replayable then d.records else (i.store.stateAt stub.cell).records
    some ⟨d.predicates, responses, records⟩

/-- The present definition, with the stubs recorded so far. -/
def exported (i : Imposter) (o : ExportOptions) : ImposterDefinition :=
  { port := i.port
    protocol := i.protocol
    name := i.name
    recordRequests := i.recordRequests
    recordMatches := i.recordMatches
    defaultResponse := if i.defaultResponse.same .plain then none else some i.defaultResponse
    stubs := i.store.stubs.filterMap (i.exportStub o)
    requestCount := if o.replayable then none else some (UInt64.ofNat i.count)
    requests := if o.replayable then [] else i.requests }

end Imposter

end VirtualService
