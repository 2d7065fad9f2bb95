/-
  VirtualService/Yaml/ToJson.lean
  ===============================
  **YAML nodes as JSON values of a shape.**

  A plain scalar is a truth value, a number, null or a text by how it is written,
  but where a text is expected it is the text as written.  So a node is read under
  the shape of what is expected, and the result is a value that the decoders of
  records take.
-/
import VirtualService.Json.Basic
import VirtualService.Yaml.Node

namespace VirtualService.Yaml

/-! ### Plain scalars -/

/-- Digits after a leading zero are no number. -/
def isZeroPadded (cs : List Char) : Bool :=
  let digits := match cs with
    | '-' :: rest => rest
    | '+' :: rest => rest
    | _ => cs
  match digits with
  | '0' :: d :: rest => (d :: rest).all Digits.isDecimal
  | _ => false

/-- The value of digits of a base. -/
def digitsOf? (base : Nat) (cs : List Char) : Option Nat :=
  if cs.isEmpty then none
  else (cs.mapM Digits.hex?).bind fun ds =>
    if ds.all (· < base) then some (ds.foldl (fun n d => n * base + d) 0) else none

/-- An integer in base 16, 8, 2 or 10. -/
def magnitude? (cs : List Char) : Option Nat :=
  match cs with
  | '0' :: 'x' :: rest => digitsOf? 16 rest
  | '0' :: 'o' :: rest => digitsOf? 8 rest
  | '0' :: 'b' :: rest => digitsOf? 2 rest
  | _ => digitsOf? 10 cs

/-- An integer with a sign or none. -/
def integer? (cs : List Char) : Option Int :=
  if isZeroPadded cs then none
  else match cs with
    | '-' :: rest => (magnitude? rest).map fun n => -(n : Int)
    | '+' :: rest => (magnitude? rest).map fun n => (n : Int)
    | _ => (magnitude? cs).map fun n => (n : Int)

/-- A word for infinity or for no number. -/
def isSpecial (cs : List Char) : Bool :=
  let cs := match cs with
    | '-' :: '.' :: rest => '.' :: rest
    | '+' :: '.' :: rest => '.' :: rest
    | _ => cs
  [".inf", ".Inf", ".INF"].contains (String.ofList cs)

def isNotANumber (text : String) : Bool := [".nan", ".NaN", ".NAN"].contains text

/-- A finite decimal number. -/
def float? (cs : List Char) : Option Double :=
  match cs with
  | '+' :: '+' :: _ => none
  | '+' :: '-' :: _ => none
  | _ => (Digits.double? cs).bind fun x => if x.isFinite then some x else none

def isNull (text : String) : Bool := ["", "null", "Null", "NULL", "~"].contains text

def bool? (text : String) : Option Bool :=
  if ["true", "True", "TRUE"].contains text then some true
  else if ["false", "False", "FALSE"].contains text then some false
  else none

/-- An integer that a value can keep; those of up to 128 bits that it cannot keep are refused. -/
def keptInteger (i : Int) : Option (Option Json) :=
  if Number.inRange i then some (some (Json.int i))
  else if -(twoTo 127 : Int) ≤ i && i < twoTo 128 then some none
  else none

/-- The value of a plain scalar.  What is infinite or no number is null. -/
def plainValue (text : String) : Option Json :=
  let cs := text.toList
  if isNull text then some .null
  else match bool? text with
    | some b => some (.bool b)
    | none =>
        match (integer? cs).bind keptInteger with
        | some kept => kept
        | none =>
            if isSpecial cs || isNotANumber text then some .null
            else if isZeroPadded cs then some (.str text)
            else match float? cs with
              | some x => some (.num (.float x))
              | none => some (.str text)

/-- The value of a scalar. -/
def scalarValue (text : String) (plain : Bool) (tag : Option String) : Option Json :=
  match tag with
  | none => if plain then plainValue text else some (.str text)
  | some "tag:yaml.org,2002:bool" => (bool? text).map .bool
  | some "tag:yaml.org,2002:int" =>
      ((integer? text.toList).bind keptInteger).bind id
  | some "tag:yaml.org,2002:float" =>
      if isSpecial text.toList || isNotANumber text then some .null
      else (float? text.toList).map fun x => .num (.float x)
  | some "tag:yaml.org,2002:null" =>
      if !text.isEmpty && isNull text then some .null else none
  | some tag => if tag.startsWith "!" then none else some (.str text)

/-! ### Shapes -/

/-- What is expected of a node. -/
inductive Shape where
  /-- Any value; `strict` says that the keys within it must be texts by how they are written. -/
  | any (strict : Bool)
  | text
  | optional (shape : Shape)
  | list (shape : Shape)
  | dict (shape : Shape)
  /-- A record of known fields; others are ignored, or kept in an open record. -/
  | record (isOpen : Bool) (fields : List (String × Shape))

/-- The deepest nesting that is read. -/
def maxDepth : Nat := 128

/-- A tag of its own kind, which no value can keep. -/
def isForeign (tag : Option String) : Bool := tag.any fun tag => tag.startsWith "!"

/-- A key of a value. -/
def keyText? (strict : Bool) (key : Node) : Option String :=
  match key with
  | .scalar text plain tag =>
      if strict then
        match scalarValue text plain tag with
        | some (.str s) => some s
        | _ => none
      else some text
  | _ => none

mutual

/-- The value of a node where any value may stand. -/
def Node.value? (strict : Bool) : Nat → Node → Option Json
  | _, .scalar text plain tag => scalarValue text plain tag
  | 0, _ => none
  | depth + 1, .sequence items tag =>
      if isForeign tag then none else (values? strict depth items).map .arr
  | depth + 1, .mapping entries tag =>
      if isForeign tag then none else (members? strict depth entries).map Json.ofPairs

def values? (strict : Bool) : Nat → List Node → Option (List Json)
  | _, [] => some []
  | depth, item :: items => do
      let j ← Node.value? strict depth item
      let js ← values? strict depth items
      return j :: js

def members? (strict : Bool) : Nat → List (Node × Node) → Option (List (String × Json))
  | _, [] => some []
  | depth, (key, value) :: entries => do
      let k ← keyText? strict key
      let j ← Node.value? strict depth value
      let js ← members? strict depth entries
      return (k, j) :: js

end

/-- The items of a node; a plain scalar with nothing in it has none. -/
def Node.items? : Node → Option (List Node)
  | .sequence items _ => some items
  | .scalar "" true _ => some []
  | _ => none

/-- The entries of a node by their keys; a plain scalar with nothing in it has none. -/
def Node.entries? : Node → Option (List (String × Node))
  | .mapping entries _ => entries.mapM fun entry => (keyText? false entry.1).map (·, entry.2)
  | .scalar "" true _ => some []
  | _ => none

/-- No known field is there twice. -/
def fieldsAreSingle (fields : List (String × Shape)) (entries : List (String × Node)) : Bool :=
  fields.all fun field => (entries.countP fun entry => entry.1 == field.1) ≤ 1

/-- The value of a node that has a shape. -/
def Node.toJson? : Shape → Nat → Node → Option Json
  | .any strict, depth, n => n.value? strict depth
  | .text, _, n =>
      match n with
      | .scalar text _ _ => some (.str text)
      | _ => none
  | .optional shape, depth, n =>
      match n with
      | .scalar text true _ => if isNull text then some .null else n.toJson? shape depth
      | _ => n.toJson? shape depth
  | .list _, 0, _ => none
  | .list shape, depth + 1, n => do
      let items ← n.items?
      let js ← items.mapM fun item => item.toJson? shape depth
      return .arr js
  | .dict _, 0, _ => none
  | .dict shape, depth + 1, n => do
      let entries ← n.entries?
      let js ← entries.mapM fun entry => (entry.2.toJson? shape depth).map (entry.1, ·)
      return .ofPairs js
  | .record _ _, 0, _ => none
  | .record isOpen fields, depth + 1, n => do
      let entries ← n.entries?
      if fieldsAreSingle fields entries then
        let known ← fieldValues fields depth entries
        let other ← if isOpen then extraValues fields depth entries else some []
        return .ofPairs (known ++ other)
      else none
where
  /-- The values of the known fields that are there. -/
  fieldValues (fields : List (String × Shape)) (depth : Nat) (entries : List (String × Node)) :
      Option (List (String × Json)) :=
    match fields with
    | [] => some []
    | (name, shape) :: fields => do
        let rest ← fieldValues fields depth entries
        match entries.find? fun entry => entry.1 = name with
        | some (_, n) =>
            let j ← Node.toJson? shape depth n
            return (name, j) :: rest
        | none => return rest
  /-- The values of all other fields. -/
  extraValues (fields : List (String × Shape)) (depth : Nat) (entries : List (String × Node)) :
      Option (List (String × Json)) :=
    (entries.filter fun entry => !fields.any fun field => field.1 == entry.1).mapM fun entry =>
      (entry.2.value? true depth).map (entry.1, ·)

end VirtualService.Yaml
