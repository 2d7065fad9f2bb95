/-
  VirtualService/Response/Literal.lean
  ====================================
  **Canned responses.**

  A response has a status, headers and a body; what else a protocol puts into it
  is carried along untouched.

  `bodyText` is `body_text` of the service's `LiteralResponse`.
-/
import VirtualService.Decode

namespace VirtualService

/-- A canned response. -/
structure LiteralResponse where
  status : UInt16
  headers : Dict String
  body : Option Json
  /-- The members beside status, headers and body. -/
  extra : Dict Json
deriving Repr, Inhabited

namespace LiteralResponse

/-- A response that says only that all is well. -/
def plain : LiteralResponse := ⟨200, [], none, []⟩

/-- The body as text: a text as it is, structure in its written form, and nothing for null. -/
def bodyText (r : LiteralResponse) : String :=
  match r.body with
  | none => ""
  | some .null => ""
  | some (.str s) => s
  | some other => other.compact

/-- Equality, in which numbers compare by value. -/
def same (a b : LiteralResponse) : Bool :=
  a.status == b.status && a.headers == b.headers &&
    (match a.body, b.body with
      | none, none => true
      | some x, some y => Json.same x y
      | _, _ => false) &&
    Json.sameMembers a.extra b.extra

/-! ### Written form -/

/-- The members that are no extra ones. -/
def known : List String := ["body", "headers", "statusCode"]

def encode (r : LiteralResponse) : Json :=
  .ofPairs <|
    ("statusCode", Json.nat r.status.toNat) ::
    (if r.headers.isEmpty then [] else [("headers", .obj (Dict.mapValues .str r.headers))]) ++
    (match r.body with
      | none => []
      | some body => [("body", body)]) ++
    r.extra

def decode : Decoder LiteralResponse := fun j => do
  let members ← Fields.membersOf "LiteralResponse" j
  let fields := Fields.named members
  let status := fields.readOr "statusCode" Decoder.word16 200
  let headers := fields.readOr "headers" (Decoder.dict Decoder.text) []
  let body := fields.readOption "body" Decoder.any
  fields.firstFault
    [Fields.fault "statusCode" status, Fields.fault "headers" headers, Fields.fault "body" body]
  return ⟨← status, ← headers, ← body, members.filter fun entry => !known.contains entry.1⟩

end LiteralResponse

end VirtualService
