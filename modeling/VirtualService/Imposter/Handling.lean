/-
  VirtualService/Imposter/Handling.lean
  =====================================
  **From a request to its resolution.**

  A request is begun: it is accepted, and a stub is selected.  A canned response
  resolves it at once; a proxy leaves it waiting for the origin.  While it waits
  the stubs may be edited.  The origin's reply completes it: the answer is recorded
  as the mode of the proxy says, and served whether or not the recording succeeds.

  `Imposter.handle` is `handle` of an `Imposter` with `resolve` of its
  `ResponseResolver`, cut in two where `proxy` waits for the broker: `begin` is
  what comes before, `complete` what comes after.  `recordAnswer` is `record` of
  the resolver, and `remember` is `record_match` where matches are kept.
-/
import VirtualService.Imposter.Basic
import VirtualService.Imposter.Resolution
import VirtualService.Metrics
import VirtualService.Proxy.Recording

namespace VirtualService

/-- Why a request comes to nothing. -/
inductive HandleError where
  | imposter (cause : ImposterError)
  | resolve (cause : ResolveError)
deriving Repr

def HandleError.message : HandleError → String
  | imposter cause => cause.message
  | resolve cause => cause.message

/-- A request that waits for an origin, for the proxy of a stub. -/
structure Waiting where
  stub : Stub
  target : ProxyTarget

/-- What a request has led to once a stub is selected. -/
inductive Begun where
  | finished (result : Except HandleError Resolution)
  | waiting (w : Waiting)

/-- What happens while a request waits: the commands applied in the meantime, and then the reply and
    how long it took, in milliseconds. -/
structure Exchange where
  edits : List StoreCommand
  reply : ProxyReply
  latency : Double

namespace Imposter

/-- Keep what a stub has answered, if that is kept. -/
def remember (i : Imposter) (stub : Stub) (now : Timestamp) (request : Request)
    (response : LiteralResponse) : Imposter :=
  if i.recordMatches then
    { i with store :=
        i.store.modifyState stub.cell fun state => state.record ⟨now, request, response⟩ }
  else i

/-- Begin a request at an instant. -/
def begin (i : Imposter) (now : Timestamp) (request : Request) : Begun × Imposter × Metrics :=
  if i.closed then (.finished (.error (.imposter (.closed i.port))), i, [])
  else
    let i := i.accept now request
    let (selection, store) := i.store.resolve request
    let i := { i with store := store }
    match selection with
    | none => (.finished (.ok ⟨i.defaultResponse, .default⟩), i, [.resolution Outcome.default.label])
    | some selected =>
        match selected.response with
        | .literal response _ =>
            let outcome := Outcome.matched selected.stub.id selected.place
            (.finished (.ok ⟨response, outcome⟩), i.remember selected.stub now request response,
              [.resolution outcome.label])
        | .proxy target =>
            if i.capabilities.brokered then (.waiting ⟨selected.stub, target⟩, i, [])
            else (.finished (.error (.resolve .noProxyBroker)), i, [.resolution "error"])

/-- The command that records the answer to a request, if the mode of the proxy asks for one. -/
def recordingCommand (request : Request) (w : Waiting) (response : LiteralResponse) :
    Option StoreCommand :=
  let recorded := Recording.stub (Recording.predicates request w.target.generators) response
  match w.target.mode with
  | .once => some (.record w.stub.id recorded)
  | .always => some (.append w.stub.id recorded)
  | .transparent => none

/-- How a recording is counted. -/
def recordingLabel : Except StoreError StoreChange → String
  | .ok (.appended _) => "appended"
  | .ok _ => "inserted"
  | .error _ => "failed"

/-- The stub that a recording has made or extended. -/
def recordedId : Except StoreError StoreChange → Option Nat
  | .ok change => change.id?
  | .error _ => none

/-- Record an answer as the mode of the proxy says.  A recording that fails changes nothing. -/
def recordAnswer (i : Imposter) (request : Request) (w : Waiting) (response : LiteralResponse) :
    Option Nat × Imposter × Metrics :=
  match recordingCommand request w response with
  | none => (none, i, [])
  | some command =>
      let (result, i) := i.edit command
      (recordedId result, i, [.recording w.target.mode.key (recordingLabel result)])

/-- Complete a waiting request with the reply of the origin, at an instant. -/
def complete (i : Imposter) (now : Timestamp) (request : Request) (w : Waiting)
    (reply : ProxyReply) (latency : Double) :
    Except HandleError Resolution × Imposter × Metrics :=
  let called := Measurement.proxyCall w.target.mode.key reply.label latency
  match reply.answer i.capabilities.timeoutMs w.target.origin with
  | .error e => (.error (.resolve e), i, [called, .resolution "error"])
  | .ok response =>
      let (recorded, i, measured) := i.recordAnswer request w response
      let outcome := Outcome.proxied w.stub.id w.target.mode recorded
      (.ok ⟨response, outcome⟩, i.remember w.stub now request response,
        called :: measured ++ [.resolution outcome.label])

/-- Apply commands in order, whether or not they succeed. -/
def editAll (i : Imposter) (commands : List StoreCommand) : Imposter :=
  commands.foldl (fun i command => (i.edit command).2) i

/-- Handle a request: if it has to wait, `ask` tells what happens until the origin has replied. -/
def handle (i : Imposter) (now : Timestamp) (request : Request) (ask : ProxyTarget → Exchange) :
    Except HandleError Resolution × Imposter × Metrics :=
  match i.begin now request with
  | (.finished result, i, measured) => (result, i, measured)
  | (.waiting w, i, measured) =>
      let exchange := ask w.target
      let (result, i, more) :=
        (i.editAll exchange.edits).complete now request w exchange.reply exchange.latency
      (result, i, measured ++ more)

end Imposter

end VirtualService
