/-
  VirtualService/Decode.lean
  ==========================
  **JSON values as typed records.**

  A decoder takes a value to what it means or to the first fault found in it.
  Records are read from objects, whose members are looked at in the order of
  their keys, or from arrays, whose items are the fields in the order in which
  they are declared.  Members that no field asks for are ignored.
-/
import VirtualService.Json.Printer
import VirtualService.Text.Quoted

namespace VirtualService

/-- Why a value does not decode. -/
inductive DecodeError where
  /-- A value of the wrong kind: what was found and what is expected. -/
  | wrongKind (found : Json) (expected : String)
  /-- An integer outside the range of the expected type. -/
  | outOfRange (found : Int) (expected : String)
  /-- A member that must be there is not. -/
  | missing (field : String)
  /-- A word that is none of those known. -/
  | unknownWord (word : String) (known : List String)
  /-- An array that ends before a field that must be there. -/
  | tooShort (length : Nat) (record : String) (fields : Nat)
  /-- An array with items left over. -/
  | tooLong (length : Nat) (fields : Nat)
  /-- An array with items left over, within a part of an open record. -/
  | moreThan (length : Nat) (fields : Nat)
  /-- An object where a word or an object with one member is expected. -/
  | notSingle
  /-- A part with rules of its own refuses its value. -/
  | refused (message : String)
deriving Repr, Inhabited

namespace DecodeError

/-- What a value is called in messages. -/
def describe : Json → String
  | .null => "null"
  | .bool true => "boolean `true`"
  | .bool false => "boolean `false`"
  | .num (.int i) => "integer `" ++ (Number.int i).text ++ "`"
  | .num (.float x) => "floating point `" ++ (Number.float x).text ++ "`"
  | .str s => "string " ++ quotedText s
  | .arr _ => "sequence"
  | .obj _ => "map"

/-- A number of elements. -/
def elements (n : Nat) : String :=
  (Number.int n).text ++ (if n = 1 then " element" else " elements")

/-- The known words in a message. -/
def choices (known : List String) : String :=
  let quoted := known.map fun word => "`" ++ word ++ "`"
  match quoted with
  | [] => "there are no variants"
  | [a] => "expected " ++ a
  | [a, b] => "expected " ++ a ++ " or " ++ b
  | _ => "expected one of " ++ ", ".intercalate quoted

/-- The text of a fault. -/
def message : DecodeError → String
  | wrongKind found expected => "invalid type: " ++ describe found ++ ", expected " ++ expected
  | outOfRange found expected =>
      "invalid value: " ++ describe (.num (.int found)) ++ ", expected " ++ expected
  | missing field => "missing field `" ++ field ++ "`"
  | unknownWord word known => "unknown variant `" ++ word ++ "`, " ++ choices known
  | tooShort length record fields =>
      "invalid length " ++ (Number.int length).text ++ ", expected struct " ++ record ++ " with " ++
        elements fields
  | tooLong length _ =>
      "invalid length " ++ (Number.int length).text ++ ", expected fewer elements in array"
  | moreThan length fields =>
      "invalid length " ++ (Number.int length).text ++ ", expected " ++ elements fields ++ " in sequence"
  | notSingle => "invalid value: map, expected map with a single key"
  | refused message => message

/-- The fault as it is told within a part of an open record. -/
def withinPart : DecodeError → DecodeError
  | tooLong length fields => moreThan length fields
  | other => other

end DecodeError

/-- A reading of JSON values. -/
abbrev Decoder (α : Type) := Json → Except DecodeError α

namespace Decoder

/-! ### Plain values -/

def any : Decoder Json := Except.ok

def bool : Decoder Bool
  | .bool b => .ok b
  | other => .error (.wrongKind other "a boolean")

def text : Decoder String
  | .str s => .ok s
  | other => .error (.wrongKind other "a string")

def map : Decoder (Dict Json)
  | .obj members => .ok members
  | other => .error (.wrongKind other "a map")

/-- A natural number below a bound, which the name of its type stands for. -/
def natBelow (bound : Nat) (name : String) : Decoder Nat
  | .num (.int i) => if 0 ≤ i ∧ i < bound then .ok i.toNat else .error (.outOfRange i name)
  | other => .error (.wrongKind other name)

/-- A number of 16 bits. -/
def word16 : Decoder UInt16 := fun j => (natBelow (twoTo 16) "u16" j).map UInt16.ofNat

/-- A number of 64 bits. -/
def word64 : Decoder UInt64 := fun j => (natBelow (twoTo 64) "u64" j).map UInt64.ofNat

/-- A value or null. -/
def option {α : Type} (decode : Decoder α) : Decoder (Option α)
  | .null => .ok none
  | other => (decode other).map some

/-- Every item of an array, in order. -/
def list {α : Type} (decode : Decoder α) : Decoder (List α)
  | .arr items => items.mapM decode
  | other => .error (.wrongKind other "a sequence")

/-- Every member of an object, in the order of the keys. -/
def dict {α : Type} (decode : Decoder α) : Decoder (Dict α)
  | .obj members => members.mapM fun entry => (decode entry.2).map fun a => (entry.1, a)
  | other => .error (.wrongKind other "a map")

/-- One of some words, alone or as the key of a single null. -/
def word {α : Type} (known : List (String × α)) : Decoder α
  | .str s => choose s
  | .obj [(key, value)] => do
      let a ← choose key
      match value with
      | .null => .ok a
      | other => .error (.wrongKind other "unit")
  | .obj _ => .error .notSingle
  | other => .error (.wrongKind other "string or map")
where
  choose (s : String) : Except DecodeError α :=
    match known.find? fun entry => entry.1 = s with
    | some entry => .ok entry.2
    | none => .error (.unknownWord s (known.map Prod.fst))

end Decoder

/-! ### Records -/

/-- What the fields of a record are read from. -/
inductive Fields where
  | named (members : Dict Json)
  | ordered (items : List Json) (record : String) (declared : List String)

namespace Fields

/-- Open a value as a record with the declared fields. -/
def ofJson (record : String) (declared : List String) : Decoder Fields
  | .obj members => .ok (.named members)
  | .arr items => .ok (.ordered items record declared)
  | other => .error (.wrongKind other ("struct " ++ record))

/-- Open a value as a record that keeps members beyond its fields; only an object can be one. -/
def membersOf (record : String) : Decoder (Dict Json)
  | .obj members => .ok members
  | other => .error (.wrongKind other ("struct " ++ record))

/-- The value of a field, if it is there. -/
def find? (fields : Fields) (name : String) : Option Json :=
  match fields with
  | .named members => Dict.find? members name
  | .ordered items _ declared => items[declared.findIdx (· = name)]?

/-- The decoded value of a field, if it is there. -/
def read {α : Type} (fields : Fields) (name : String) (decode : Decoder α) :
    Except DecodeError (Option α) :=
  match fields.find? name with
  | none => .ok none
  | some value => (decode value).map some

/-- A field that must be there. -/
def require {α : Type} (fields : Fields) (name : String) (value : Option α) :
    Except DecodeError α :=
  match value, fields with
  | some a, _ => .ok a
  | none, .named _ => .error (.missing name)
  | none, .ordered items record declared => .error (.tooShort items.length record declared.length)

/-- No items are left over. -/
def finish (fields : Fields) : Except DecodeError Unit :=
  match fields with
  | .named _ => .ok ()
  | .ordered items _ declared =>
      if items.length ≤ declared.length then .ok () else .error (.tooLong items.length declared.length)

/-- The decoded value of a field that has a value of its own when it is not there. -/
def readOr {α : Type} (fields : Fields) (name : String) (decode : Decoder α) (otherwise : α) :
    Except DecodeError α :=
  (fields.read name decode).map fun value => value.getD otherwise

/-- The decoded value of a field that may be null or not there. -/
def readOption {α : Type} (fields : Fields) (name : String) (decode : Decoder α) :
    Except DecodeError (Option α) :=
  (fields.read name (Decoder.option decode)).map Option.join

/-- The fault of a reading, if it has one. -/
def fault {α : Type} (name : String) (reading : Except DecodeError α) :
    String × Option DecodeError :=
  match reading with
  | .ok _ => (name, none)
  | .error e => (name, some e)

/-- The first fault among the readings of the fields, which come in declared order: by the order of
    the keys in an object, by the declared order in an array. -/
def firstFault (fields : Fields) (faults : List (String × Option DecodeError)) :
    Except DecodeError Unit :=
  let inOrder := match fields with
    | .named _ => faults.mergeSort fun a b => a.1 ≤ b.1
    | .ordered .. => faults
  match inOrder.findSome? Prod.snd with
  | none => .ok ()
  | some e => .error e

end Fields

end VirtualService
