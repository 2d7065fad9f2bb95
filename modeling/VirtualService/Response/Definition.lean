/-
  VirtualService/Response/Definition.lean
  =======================================
  **Responses as they are authored.**

  A response is canned and may be served several times in a row, or it is a
  proxy.  An empty object is a canned response with nothing in it.

  A definition is the service's `ResponseSpec`; `decode` and `encode` are its
  conversions from and to JSON, and `takeRepeats` is `take_repeat`.
-/
import VirtualService.Proxy.Target
import VirtualService.Response.Literal

namespace VirtualService

/-- One of the responses of a stub. -/
inductive ResponseDefinition where
  | literal (response : LiteralResponse) (repeats : Option UInt32)
  | proxy (target : ProxyTarget)
deriving Repr, Inhabited

namespace ResponseDefinition

/-- How often in a row the response is served, if that is said. -/
def repeats : ResponseDefinition → Option UInt32
  | literal _ repeats => repeats
  | proxy _ => none

def isProxy : ResponseDefinition → Bool
  | literal _ _ => false
  | proxy _ => true

/-- Equality, in which numbers compare by value. -/
def same : ResponseDefinition → ResponseDefinition → Bool
  | literal r n, literal s m => r.same s && n == m
  | proxy t, proxy u => t.same u
  | _, _ => false

/-! ### Written form -/

def encode : ResponseDefinition → Json
  | literal response repeats =>
      .ofPairs <|
        ("is", response.encode) ::
        match repeats with
        | none => []
        | some n => [("repeat", Json.nat n.toNat)]
  | proxy target => .obj [("proxy", target.encode)]

/-- A number of repetitions: an integer of 32 bits above zero. -/
def repeatsOf (value : Json) : Except DefinitionError UInt32 :=
  match value with
  | .num (.int i) =>
      if 0 < i ∧ i < twoTo 32 then .ok (UInt32.ofNat i.toNat)
      else .error (.invalidResponse (.badRepeat value))
  | other => .error (.invalidResponse (.badRepeat other))

/-- The repetitions among the members of a response, in the present form or else in the older one
    under `_behaviors`, and the members that are left. -/
def takeRepeats (members : Dict Json) : Except DefinitionError (Option UInt32 × Dict Json) :=
  match Dict.find? members "repeat" with
  | some value => do return (some (← repeatsOf value), Dict.erase members "repeat")
  | none =>
      let left := Dict.erase members "_behaviors"
      match (Dict.find? members "_behaviors").bind fun b => b.member? "repeat" with
      | some value => do return (some (← repeatsOf value), left)
      | none => .ok (none, left)

/-- The response that a value writes. -/
def decode : Json → Except DefinitionError ResponseDefinition
  | .obj members => do
      let (repeats, left) ← takeRepeats members
      match Dict.find? left "proxy", Dict.find? left "is", left with
      | some target, _, _ =>
          match ProxyTarget.decode target with
          | .ok target => return .proxy target
          | .error cause => .error (.invalidResponse (.proxy cause))
      | none, some response, _ =>
          match LiteralResponse.decode response with
          | .ok response => return .literal response repeats
          | .error cause => .error (.invalidResponse (.literal cause))
      | none, none, (kind, _) :: _ => .error (.invalidResponse (.unknownKind kind))
      | none, none, [] => return .literal .plain repeats
  | other => .error (.invalidResponse (.notObject other))

/-- A response within a record. -/
def decoder : Decoder ResponseDefinition := fun j =>
  match decode j with
  | .ok r => .ok r
  | .error e => .error (.refused e.message)

end ResponseDefinition

end VirtualService
