/-
  VirtualService/Config.lean
  ==========================
  **The configuration of an engine.**

  A configuration lists the imposters to run and what is at their disposal.  It is
  checked as a whole before anything is built from it.

  `validate` and `build` are `validate` and `build_registry` of the service's
  `EngineConfig`, and `usesScript` asks of each predicate what `uses_inject` does.
-/
import VirtualService.Imposter.Registry

namespace VirtualService

/-- The imposters to run, and settings for all of them. -/
structure EngineConfig where
  imposters : List ImposterDefinition
  /-- How long an origin may take, in milliseconds. -/
  proxyTimeoutMs : UInt64
  allowInjection : Bool
deriving Repr, Inhabited

/-- What is wrong with a configuration. -/
inductive ConfigFault where
  | zeroTimeout
  | duplicatePort (port : UInt16)
  | emptyProtocol (port : UInt16)
  | injectionDisabled
deriving DecidableEq, Repr

/-- The imposter of a configuration that cannot be created. -/
structure BuildFault where
  port : UInt16
  cause : ImposterError
deriving Repr

def ConfigFault.message : ConfigFault → String
  | zeroTimeout => "proxy_timeout_ms must be greater than zero"
  | duplicatePort port => "Duplicate imposter port " ++ (Number.int port.toNat).text
  | emptyProtocol port =>
      "Imposter on port " ++ (Number.int port.toNat).text ++ " has an empty protocol"
  | injectionDisabled =>
      "Inject predicates found but injection is disabled. " ++
        "Set 'allow_injection: true' to enable them"

def BuildFault.message (f : BuildFault) : String :=
  "Failed to create imposter on port " ++ (Number.int f.port.toNat).text

namespace EngineConfig

/-! ### Written form -/

/-- How long an origin may take if nothing is said. -/
def defaultTimeoutMs : UInt64 := 30000

def encode (c : EngineConfig) : Json :=
  .ofPairs
    [("imposters", .arr (c.imposters.map ImposterDefinition.encode)),
     ("proxy_timeout_ms", Json.nat c.proxyTimeoutMs.toNat),
     ("allow_injection", .bool c.allowInjection)]

def decode : Decoder EngineConfig := fun j => do
  let fields ← Fields.ofJson "EngineConfig" ["imposters", "proxy_timeout_ms", "allow_injection"] j
  let imposters := fields.readOr "imposters" (Decoder.list ImposterDefinition.decode) []
  let timeout := fields.readOr "proxy_timeout_ms" Decoder.word64 defaultTimeoutMs
  let injection := fields.readOr "allow_injection" Decoder.bool false
  fields.firstFault
    [Fields.fault "imposters" imposters, Fields.fault "proxy_timeout_ms" timeout,
     Fields.fault "allow_injection" injection]
  fields.finish
  return ⟨← imposters, ← timeout, ← injection⟩

/-! ### Validity -/

/-- The first fault of the imposters one by one, beside the ports before them. -/
def faultAmong : List UInt16 → List ImposterDefinition → Option ConfigFault
  | _, [] => none
  | seen, d :: ds =>
      if seen.contains d.port then some (.duplicatePort d.port)
      else if Blank.trim d.protocol.toList = [] then some (.emptyProtocol d.port)
      else faultAmong (d.port :: seen) ds

/-- Some predicate of some stub decides by a script. -/
def usesScript (c : EngineConfig) : Bool :=
  c.imposters.any fun d => d.stubs.any fun stub => stub.predicates.any Predicate.usesScript

/-- The first fault of a configuration, if it has one. -/
def fault? (c : EngineConfig) : Option ConfigFault :=
  if c.proxyTimeoutMs = 0 then some .zeroTimeout
  else match faultAmong [] c.imposters with
    | some fault => some fault
    | none => if !c.allowInjection && c.usesScript then some .injectionDisabled else none

def validate (c : EngineConfig) : Except ConfigFault Unit :=
  match c.fault? with
  | some fault => .error fault
  | none => .ok ()

/-! ### Building -/

def capabilities (c : EngineConfig) (brokered : Bool) : Capabilities :=
  ⟨brokered, c.allowInjection, c.proxyTimeoutMs.toNat⟩

/-- Create imposters in order, up to the first that cannot be created. -/
def createAll (r : Registry) : List ImposterDefinition → Except BuildFault Registry
  | [] => .ok r
  | d :: ds =>
      match r.create d with
      | (.ok _, r) => createAll r ds
      | (.error e, _) => .error ⟨d.port, e⟩

/-- A registry with all imposters of the configuration. -/
def build (c : EngineConfig) (brokered : Bool) : Except BuildFault Registry :=
  createAll (Registry.empty (c.capabilities brokered)) c.imposters

end EngineConfig

end VirtualService
