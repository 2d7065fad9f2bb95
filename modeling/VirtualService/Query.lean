/-
  VirtualService/Query.lean
  =========================
  **Query strings.**

  A query string is a list of segments between ampersands, each a key and a value
  around its first equals sign.  Reading it gathers the values of each key: one
  value is kept as a text, several become an array in order of appearance.
  Writing lists the pairs again, with all but the unreserved characters as
  percent triples.

  `parse` is `parse_query_string`, and `decode` is `decode_component`.
-/
import VirtualService.Json.Basic
import VirtualService.Number.Digits
import VirtualService.Text.Split

namespace VirtualService.Query

/-! ### Percent triples -/

/-- The bytes of a component: a percent sign with two hexadecimal digits after it is one byte, any
    other character its UTF-8 bytes. -/
def bytes : List Char → List UInt8
  | [] => []
  | [c] => String.utf8EncodeChar c
  | [c, d] => String.utf8EncodeChar c ++ String.utf8EncodeChar d
  | c :: h :: l :: rest =>
      if c = '%' then
        match Digits.hex? h, Digits.hex? l with
        | some high, some low => UInt8.ofNat (high * 16 + low) :: bytes rest
        | _, _ => String.utf8EncodeChar c ++ bytes (h :: l :: rest)
      else String.utf8EncodeChar c ++ bytes (h :: l :: rest)

/-- A plus sign stands for a blank. -/
def spaced (cs : List Char) : List Char := cs.map fun c => if c = '+' then ' ' else c

/-- A component as text; one whose bytes are no UTF-8 keeps its triples. -/
def decode (cs : List Char) : String :=
  (String.fromUTF8? (ByteArray.mk (bytes (spaced cs)).toArray)).getD (String.ofList (spaced cs))

/-- Characters that stand for themselves in a written component. -/
def unreserved (b : UInt8) : Bool :=
  let c := Char.ofNat b.toNat
  c.isAlphanum || c = '-' || c = '_' || c = '.' || c = '~'

/-- A byte of a written component. -/
def encodeByte (b : UInt8) : List Char :=
  if unreserved b then [Char.ofNat b.toNat]
  else ['%', Digits.upperHex (b.toNat / 16), Digits.upperHex (b.toNat % 16)]

/-- A text as a component of a query string. -/
def encode (text : String) : List Char := text.toUTF8.data.toList.flatMap encodeByte

/-! ### Reading -/

/-- The key and the value of a segment; without an equals sign the value is empty. -/
def pair (segment : List Char) : String × String :=
  match Split.first? '=' segment with
  | some (key, value) => (decode key, decode value)
  | none => (decode segment, "")

/-- The pairs of a query string, in order. -/
def pairs (query : String) : List (String × String) :=
  ((Split.pieces '&' query.toList).filter fun segment => !segment.isEmpty).map pair

/-- The parameters of a query string. -/
def parse (query : String) : Dict Json :=
  Json.gatherAll [] ((pairs query).map fun (key, value) => (key, .str value))

/-! ### Writing -/

/-- A key and a value as a segment of a query string. -/
def encodePair (key value : String) : List Char := encode key ++ '=' :: encode value

end VirtualService.Query
