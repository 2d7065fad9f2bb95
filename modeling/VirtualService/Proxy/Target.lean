/-
  VirtualService/Proxy/Target.lean
  ================================
  **Where a proxy forwards to, and what it records.**

  A proxy forwards to an origin and records the answer once, always or never.
  Generators say which fields of a request the recorded stub is to recognise.
-/
import VirtualService.Predicate.Codec

namespace VirtualService

/-- Whether a proxy records what it sees. -/
inductive ProxyMode where
  /-- The first answer is recorded before the proxy, and replayed from then on. -/
  | once
  /-- Every answer is added to the recording. -/
  | always
  /-- Nothing is recorded. -/
  | transparent
deriving DecidableEq, Repr, Inhabited

/-- Which parts of a request a recorded stub compares, and how. -/
structure PredicateGenerator where
  selection : Dict Json
  operator : Option Operator
  options : PredicateOptions
deriving Repr, Inhabited

/-- Where a proxy forwards to. -/
structure ProxyTarget where
  /-- The address of the origin. -/
  origin : String
  mode : ProxyMode
  generators : List PredicateGenerator
  injectedHeaders : Dict String
deriving Repr, Inhabited

/-! ### Modes -/

namespace ProxyMode

def all : List ProxyMode := [once, always, transparent]

def key : ProxyMode → String
  | once => "proxyOnce"
  | always => "proxyAlways"
  | transparent => "proxyTransparent"

def decode : Decoder ProxyMode := Decoder.word (all.map fun mode => (mode.key, mode))

end ProxyMode

/-! ### Generators -/

namespace PredicateGenerator

/-- Equality, in which numbers compare by value. -/
def same (a b : PredicateGenerator) : Bool :=
  Json.sameMembers a.selection b.selection && a.operator == b.operator &&
    a.options.same b.options

def encode (g : PredicateGenerator) : Json :=
  .ofPairs <|
    ("matches", .obj g.selection) ::
    (match g.operator with
      | none => []
      | some operator => [("predicateOperator", .str operator.key)]) ++
    g.options.members

def decode : Decoder PredicateGenerator := fun j => do
  let members ← Fields.membersOf "PredicateGenerator" j
  let fields := Fields.named members
  let selection := fields.read "matches" Decoder.map
  let operator := fields.readOption "predicateOperator" Operator.decode
  fields.firstFault
    [Fields.fault "matches" selection, Fields.fault "predicateOperator" operator]
  let selection ← fields.require "matches" (← selection)
  let options ← (PredicateOptions.ofFields fields).mapError DecodeError.withinPart
  return ⟨selection, ← operator, options⟩

end PredicateGenerator

/-! ### Targets -/

namespace ProxyTarget

/-- A target that records as its mode says and has nothing else to it. -/
def bare (origin : String) (mode : ProxyMode) : ProxyTarget := ⟨origin, mode, [], []⟩

def sameGenerators : List PredicateGenerator → List PredicateGenerator → Bool
  | [], [] => true
  | g :: gs, h :: hs => g.same h && sameGenerators gs hs
  | _, _ => false

/-- Equality, in which numbers compare by value. -/
def same (a b : ProxyTarget) : Bool :=
  a.origin == b.origin && a.mode == b.mode && sameGenerators a.generators b.generators &&
    a.injectedHeaders == b.injectedHeaders

def encode (t : ProxyTarget) : Json :=
  .ofPairs <|
    [("to", .str t.origin), ("mode", .str t.mode.key)] ++
    (if t.generators.isEmpty then []
      else [("predicateGenerators", .arr (t.generators.map PredicateGenerator.encode))]) ++
    (if t.injectedHeaders.isEmpty then []
      else [("injectHeaders", .obj (Dict.mapValues .str t.injectedHeaders))])

def decode : Decoder ProxyTarget := fun j => do
  let fields ← Fields.ofJson "ProxyTarget" ["to", "mode", "predicateGenerators", "injectHeaders"] j
  let origin := fields.read "to" Decoder.text
  let mode := fields.readOr "mode" ProxyMode.decode .once
  let generators := fields.readOr "predicateGenerators" (Decoder.list PredicateGenerator.decode) []
  let headers := fields.readOr "injectHeaders" (Decoder.dict Decoder.text) []
  fields.firstFault
    [Fields.fault "to" origin, Fields.fault "mode" mode,
     Fields.fault "predicateGenerators" generators, Fields.fault "injectHeaders" headers]
  let origin ← fields.require "to" (← origin)
  fields.finish
  return ⟨origin, ← mode, ← generators, ← headers⟩

end ProxyTarget

end VirtualService
