/-
  VirtualService/CommandLine.lean
  ===============================
  **Resolving one request from the command line.**

  The program loads a configuration, resolves one request against an imposter and
  prints the response with how it was produced.  What the arguments ask for and
  what is printed is decided here; reading files and printing is not.
-/
import VirtualService.Config.Source
import VirtualService.Proxy.Forward

namespace VirtualService.CommandLine

/-- What the arguments ask for. -/
structure Invocation where
  /-- The path of the configuration. -/
  config : String
  port : Option UInt16
  /-- The path of the request, which is on standard input otherwise. -/
  request : Option String
  noProxy : Bool
  /-- Print the imposter as well. -/
  exporting : Bool
deriving DecidableEq, Repr, Inhabited

/-- What is to be done. -/
inductive Task where
  | help
  | version
  | run (i : Invocation)
  | misuse
deriving DecidableEq, Repr, Inhabited

/-! ### Arguments -/

/-- The options given so far. -/
structure Given where
  config : Option String
  port : Option String
  request : Option String
  noProxy : Bool
  exporting : Bool

/-- An option that takes a value. -/
inductive ValueOption where
  | config
  | port
  | request
deriving DecidableEq

namespace Given

def none : Given := ⟨Option.none, Option.none, Option.none, false, false⟩

/-- Set an option, once; the value must not be empty. -/
def set (g : Given) (o : ValueOption) (value : String) : Option Given :=
  if value.isEmpty then Option.none
  else match o with
    | .config => if g.config.isSome then Option.none else some { g with config := some value }
    | .port => if g.port.isSome then Option.none else some { g with port := some value }
    | .request => if g.request.isSome then Option.none else some { g with request := some value }

end Given

/-- An argument that names an option with a value, and the value if it is in the same argument. -/
def valueOption? (argument : String) : Option (ValueOption × Option String) :=
  let long (o : ValueOption) (name : String) : Option (ValueOption × Option String) :=
    if argument = name then some (o, none)
    else if (name ++ "=").toList.isPrefixOf argument.toList then
      some (o, some (String.ofList (argument.toList.drop (name.length + 1))))
    else none
  let short (o : ValueOption) (letter : Char) : Option (ValueOption × Option String) :=
    match argument.toList with
    | '-' :: c :: rest =>
        if c != letter then none
        else match rest with
          | [] => some (o, none)
          | '=' :: value => some (o, some (String.ofList value))
          | value => some (o, some (String.ofList value))
    | _ => none
  long .config "--config" <|> long .port "--port" <|> long .request "--request" <|>
    short .config 'c' <|> short .port 'p' <|> short .request 'r'

/-- A port in decimal, with a plus sign or none. -/
def port? (text : String) : Option UInt16 :=
  let digits := match text.toList with
    | '+' :: rest => rest
    | cs => cs
  if digits.isEmpty || !digits.all Digits.isDecimal || 65535 < Digits.value digits then none
  else some (UInt16.ofNat (Digits.value digits))

/-- What the options ask for; the configuration may be named by the environment instead. -/
def conclude (environment : Option String) (g : Given) : Task :=
  match g.config <|> environment, g.port with
  | some config, none => .run ⟨config, none, g.request, g.noProxy, g.exporting⟩
  | some config, some text =>
      match port? text with
      | some port => .run ⟨config, some port, g.request, g.noProxy, g.exporting⟩
      | none => .misuse
  | none, _ => .misuse

/-- Read the arguments from left to right. -/
def read (environment : Option String) : Given → List String → Task
  | g, [] => conclude environment g
  | g, argument :: rest =>
      if argument = "-h" || argument = "--help" then .help
      else if argument = "-V" || argument = "--version" then .version
      else if argument = "--no-proxy" then
        if g.noProxy then .misuse else read environment { g with noProxy := true } rest
      else if argument = "--export" then
        if g.exporting then .misuse else read environment { g with exporting := true } rest
      else match valueOption? argument, rest with
        | some (o, some value), rest =>
            match g.set o value with
            | some g => read environment g rest
            | none => .misuse
        | some (o, none), value :: rest =>
            if value.startsWith "-" && value != "-" then .misuse
            else match g.set o value with
              | some g => read environment g rest
              | none => .misuse
        | some (_, none), [] => .misuse
        | none, _ => .misuse

/-- What arguments ask for. -/
def taskOf (environment : Option String) (arguments : List String) : Task :=
  read environment .none arguments

/-! ### Texts -/

def helpText : String :=
  "Rift: Mountebank-compatible request matching and stub resolution engine for service " ++
  "virtualization.\n\nUsage: rift-resolve [OPTIONS] --config <CONFIG>\n\nOptions:\n" ++
  "  -c, --config <CONFIG>    Engine configuration file (YAML or JSON) [env: RIFT_CONFIG=]\n" ++
  "  -p, --port <PORT>        Imposter port to resolve against (defaults to the first configured " ++
  "imposter)\n" ++
  "  -r, --request <REQUEST>  Canonical request as a JSON file; read from stdin when omitted\n" ++
  "      --no-proxy           Do not forward proxy responses\n" ++
  "      --export             Print the imposter (replayable) after resolving\n" ++
  "  -h, --help               Print help\n" ++
  "  -V, --version            Print version\n"

def versionText : String := "rift-resolve 0.1.0\n"

/-! ### Running -/

/-- Why a run fails. -/
inductive Failure where
  | config (path : String) (cause : ConfigError)
  | build (fault : BuildFault)
  | noImposters
  | imposter (cause : ImposterError)
  | unreadable (path : Option String)
  | malformedRequest
  | handling (cause : HandleError)

def Failure.message : Failure → String
  | config path cause =>
      match cause with
      | .invalid _ => cause.message
      | _ => cause.message ++ " " ++ path
  | build fault => fault.message
  | noImposters => "No imposters configured"
  | imposter cause => cause.message
  | unreadable (some path) => "Failed to read request file " ++ path
  | unreadable none => "Failed to read request from stdin"
  | malformedRequest => "Request must be a JSON object of request fields"
  | handling cause => cause.message

/-- The request in a text. -/
def requestOf (source : Option String) (text : Option String) : Except Failure Request :=
  match text with
  | none => .error (.unreadable source)
  | some text =>
      match Json.ofText? text with
      | some (.obj fields) => .ok fields
      | _ => .error .malformedRequest

/-- The imposter that is asked for: that of a port, or the first. -/
def imposterOf (r : Registry) (port : Option UInt16) : Except Failure Imposter :=
  match port, r.imposters with
  | none, [] => .error .noImposters
  | none, i :: _ => .ok i
  | some port, _ => (r.get port).mapError .imposter

/-- What a run prints: the resolution, and the imposter after it if that is asked for.  `text` holds
    the configuration, `requestText` the request, and `forward` makes the replies of origins. -/
def run (i : Invocation) (text requestText : Option String) (now : Timestamp)
    (forward : Request → ProxyTarget → ProxyReply) : Except Failure (List Json) := do
  let config ← (EngineConfig.load text).mapError (.config i.config)
  let registry ← (config.build (!i.noProxy)).mapError .build
  let imposter ← imposterOf registry i.port
  let request ← requestOf i.request requestText
  let ask (target : ProxyTarget) : Exchange := ⟨[], forward request target, Double.ofInt 0⟩
  let (result, imposter, _) := imposter.handle now request ask
  let resolution ← result.mapError .handling
  return resolution.encode :: if i.exporting then [(imposter.exported ⟨true, false⟩).encode] else []

/-- The reply of an origin where there is no network: none is reached. -/
def unreached (request : Request) (target : ProxyTarget) : ProxyReply :=
  match Outbound.ofRequest request target with
  | .ok o => o.unreached target
  | .error fault => fault.reply target

end VirtualService.CommandLine
