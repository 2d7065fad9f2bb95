/-
  VirtualService/Config/Source.lean
  =================================
  **Configurations as texts.**

  A configuration is written in YAML, of which JSON is a part.  Predicates and
  responses are read as values of any kind; elsewhere the fields that hold texts
  take a scalar as it is written.

  `load` is `from_file` of the service's `EngineConfig`.
-/
import VirtualService.Config
import VirtualService.Yaml.ToJson

namespace VirtualService

/-- Why a text is no configuration that can be used. -/
inductive ConfigError where
  | readFailed
  | parseFailed
  | invalid (fault : ConfigFault)
deriving DecidableEq, Repr

def ConfigError.message : ConfigError → String
  | readFailed => "Failed to read config file"
  | parseFailed => "Failed to parse config file"
  | invalid fault => fault.message

namespace EngineConfig

open Yaml (Shape)

/-! ### Shapes -/

def responseShape : Shape :=
  .record true [("statusCode", .any false), ("headers", .dict .text), ("body", .any false)]

def recordShape : Shape :=
  .record false
    [("timestamp", .text), ("request", .dict (.any false)), ("response", responseShape)]

def stubShape : Shape :=
  .record false
    [("predicates", .list (.any false)), ("responses", .list (.any false)),
     ("matches", .list recordShape)]

def imposterShape : Shape :=
  .record false
    [("port", .any false), ("protocol", .text), ("name", .optional .text),
     ("recordRequests", .any false), ("recordMatches", .any false),
     ("defaultResponse", .optional responseShape), ("stubs", .list stubShape),
     ("numberOfRequests", .any false), ("requests", .list (.record true [("timestamp", .text)]))]

def shape : Shape :=
  .record false
    [("imposters", .list imposterShape), ("proxy_timeout_ms", .any false),
     ("allow_injection", .any false)]

/-! ### Reading -/

/-- The configuration that a text holds. -/
def ofText? (text : String) : Option EngineConfig :=
  match (Yaml.Node.ofText? text).bind fun n => n.toJson? shape Yaml.maxDepth with
  | some j =>
      match decode j with
      | .ok c => some c
      | .error _ => none
  | none => none

/-- The valid configuration in a file, whose text is missing if the file cannot be read. -/
def load (text : Option String) : Except ConfigError EngineConfig :=
  match text with
  | none => .error .readFailed
  | some text =>
      match ofText? text with
      | none => .error .parseFailed
      | some c =>
          match c.validate with
          | .ok () => .ok c
          | .error fault => .error (.invalid fault)

end EngineConfig

end VirtualService
