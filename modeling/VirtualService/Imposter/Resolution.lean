/-
  VirtualService/Imposter/Resolution.lean
  =======================================
  **How a request was answered.**

  A request is answered by a stub, by an origin behind a proxy, or by the default
  response.  It fails only where a proxy does not reach its origin.

  `ProxyReply.result` is what the call of a broker gives, with the texts of the
  service's `BrokerError`, and `ProxyReply.answer` is how `proxy` of the
  `ResponseResolver` takes it.
-/
import VirtualService.Proxy.Target
import VirtualService.Response.Literal

namespace VirtualService

/-- Where a response comes from. -/
inductive Outcome where
  | matched (stub : Nat) (place : Nat)
  /-- An origin has answered, and a stub may have been recorded. -/
  | proxied (stub : Nat) (mode : ProxyMode) (recorded : Option Nat)
  | default
deriving DecidableEq, Repr, Inhabited

/-- A response and where it comes from. -/
structure Resolution where
  response : LiteralResponse
  outcome : Outcome
deriving Repr, Inhabited

/-- Why a request is not answered. -/
inductive ResolveError where
  | upstreamUnavailable (target reason : String)
  | noProxyBroker
deriving DecidableEq, Repr

/-- How an origin answers the call of a proxy. -/
inductive ProxyReply where
  | response (response : LiteralResponse)
  | unreachable (target reason : String)
  /-- The request cannot be forwarded. -/
  | invalid (reason : String)
  /-- There is no answer in time. -/
  | silent
deriving Repr, Inhabited

namespace Outcome

/-- The word under which an outcome is counted. -/
def label : Outcome → String
  | matched _ _ => "matched"
  | proxied _ _ _ => "proxied"
  | default => "default"

def encode : Outcome → Json
  | matched stub place =>
      .ofPairs
        [("kind", .str "matched"), ("stubId", Json.nat stub), ("responseIndex", Json.nat place)]
  | proxied stub mode recorded =>
      .ofPairs
        [("kind", .str "proxied"), ("stubId", Json.nat stub), ("mode", .str mode.key),
         ("recorded", Json.ofOption Json.nat recorded)]
  | default => .obj [("kind", .str "default")]

end Outcome

def Resolution.encode (r : Resolution) : Json :=
  .ofPairs [("response", r.response.encode), ("outcome", r.outcome.encode)]

def ResolveError.message : ResolveError → String
  | upstreamUnavailable target reason => "Upstream " ++ target ++ " unavailable: " ++ reason
  | noProxyBroker => "Proxy response selected but no proxy broker is configured"

namespace ProxyReply

/-- The word under which a reply is counted. -/
def label : ProxyReply → String
  | response _ => "ok"
  | unreachable _ _ => "unavailable"
  | invalid _ => "unavailable"
  | silent => "timeout"

/-- The response of a reply, or the text of why there is none. -/
def result (timeoutMs : Nat) : ProxyReply → Except String LiteralResponse
  | response r => .ok r
  | unreachable address reason => .error ("Failed to reach " ++ address ++ ": " ++ reason)
  | invalid reason => .error ("Cannot forward request: " ++ reason)
  | silent => .error ("timed out after " ++ (Number.int timeoutMs).text ++ "ms")

/-- What a reply is to the request that waits: without a response the origin is unavailable. -/
def answer (timeoutMs : Nat) (target : String) (reply : ProxyReply) :
    Except ResolveError LiteralResponse :=
  (reply.result timeoutMs).mapError (.upstreamUnavailable target)

end ProxyReply

end VirtualService
