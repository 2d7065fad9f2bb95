/-
  VirtualService/Predicate/Interpretation.lean
  ============================================
  **Text read as structured data.**

  A text that holds JSON or XML can be navigated as if it were that value; a JSON
  text that is itself only a text has nothing to navigate into.  While a request
  is resolved, the reading of a field is made once and kept under the name by
  which a predicate asked for it.

  `interpret` is the service's function of that name, `resolvePath` is its `resolve`
  of a raw value, and `Readings.interpret` is `interpret` of its cache.
-/
import VirtualService.Json.Parser
import VirtualService.Xml.ToJson
import VirtualService.Predicate.Key

namespace VirtualService

/-- The value that a text stands for: JSON before XML, and never a bare text. -/
def interpret (text : String) : Option Json :=
  match Json.ofText? text with
  | some (.str _) => none
  | some j => some j
  | none => Xml.toJson? text

/-- The value at the end of a path within a field; along a path a text is read first. -/
def resolvePath (m : KeyMatch) (raw : Json) (path : List String) : Option Json :=
  match path, raw with
  | [], _ => some raw
  | _, .str text => (interpret text).bind (Json.navigate m path)
  | _, _ => Json.navigate m path raw

/-- The readings made so far, under the names by which they were asked for. -/
abbrev Readings := Dict (Option Json)

namespace Readings

/-- The reading of a field's text: an earlier one under the same name, or a new one that is kept. -/
def interpret (kept : Readings) (field text : String) : Option Json × Readings :=
  match Dict.find? kept field with
  | some reading => (reading, kept)
  | none =>
      let reading := VirtualService.interpret text
      (reading, Dict.insert kept field reading)

end Readings

end VirtualService
