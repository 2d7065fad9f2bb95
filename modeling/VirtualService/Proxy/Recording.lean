/-
  VirtualService/Proxy/Recording.lean
  ===================================
  **Recording what a proxy has seen.**

  The recorded stub answers with the answer of the origin.  It recognises the
  request by the parts that the generators select or, without generators, by all
  of its fields but the headers and where it came from.

  `predicates` is `generate_predicates`, `defaultPredicates` is
  `default_predicates`, `selectFields` is `select_fields`, and `stub` is
  `recorded_stub`.
-/
import VirtualService.Predicate.Interpretation
import VirtualService.Stub.Definition

namespace VirtualService.Recording

/-! ### Selecting fields -/

/-- The entry of a name: the exact one, or else the first without regard to the case of ASCII
    letters. -/
def entryOf? (fields : Dict Json) (name : String) : Option (String × Json) :=
  match List.find? (fun entry => entry.1 == name) fields with
  | some entry => some entry
  | none => List.find? (fun entry => Ascii.same entry.1 name) fields

/-- The members of an object, or of the object that a text stands for. -/
def membersWithin (value : Json) : Option (Dict Json) :=
  match value with
  | .obj members => some members
  | .str text =>
      match interpret text with
      | some (.obj members) => some members
      | _ => none
  | _ => none

mutual

/-- What one selection takes from a value: all of it for `true`, the selected members for an object,
    and nothing if no member is selected or for anything else. -/
def select (value : Json) : Json → Option Json
  | .bool true => some value
  | .obj selection =>
      match membersWithin value with
      | some members =>
          match selectFields members selection [] with
          | [] => none
          | entry :: rest => some (.obj (entry :: rest))
      | none => none
  | _ => none

/-- Add the selected parts of the fields, name by name. -/
def selectFields (fields : Dict Json) : List (String × Json) → Dict Json → Dict Json
  | [], selected => selected
  | (name, wanted) :: selection, selected =>
      match entryOf? fields name with
      | some (key, value) =>
          match select value wanted with
          | some part => selectFields fields selection (Dict.insert selected key part)
          | none => selectFields fields selection selected
      | none => selectFields fields selection selected

end

/-! ### Generated predicates -/

/-- The fields that are not compared unless a generator asks for them. -/
def unmatched : List String := ["requestFrom", "ip", "headers"]

/-- The predicate that compares all fields but those left out. -/
def defaultPredicates (request : Request) : List Predicate :=
  match request.filter fun entry => !unmatched.contains entry.1 with
  | [] => []
  | field :: fields => [.leaf .deepEquals (field :: fields) .default]

/-- The predicate of a generator, unless it selects nothing. -/
def generated (request : Request) (g : PredicateGenerator) : Option Predicate :=
  match selectFields request g.selection [] with
  | [] => none
  | field :: fields => some (.leaf (g.operator.getD .deepEquals) (field :: fields) g.options)

/-- The predicates by which a recorded stub recognises a request again. -/
def predicates (request : Request) (generators : List PredicateGenerator) : List Predicate :=
  match generators with
  | [] => defaultPredicates request
  | g :: gs => (g :: gs).filterMap (generated request)

/-- The stub recorded from an answer. -/
def stub (predicates : List Predicate) (response : LiteralResponse) : StubDefinition :=
  ⟨predicates, [.literal response none], []⟩

end VirtualService.Recording
