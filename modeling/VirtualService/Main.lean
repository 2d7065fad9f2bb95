/-
  VirtualService/Main.lean
  ========================
  **The program.**

  Reads the configuration and the request, and prints what the run prints.  There
  is no network: an origin behind a proxy counts as one that is not reached.
-/
import VirtualService.CommandLine

namespace VirtualService.CommandLine

/-- The text of a file, if it can be read. -/
def readText (path : String) : IO (Option String) := do
  match ← (IO.FS.readFile path).toBaseIO with
  | .ok text => return some text
  | .error _ => return none

/-- The text on standard input, if it can be read. -/
def readInput : IO (Option String) := do
  let stdin ← IO.getStdin
  match ← (stdin.readToEnd).toBaseIO with
  | .ok text => return some text
  | .error _ => return none

/-- Do what the arguments ask for.  Nothing that is printed shows a time. -/
def perform (arguments : List String) : IO UInt32 := do
  match taskOf (← IO.getEnv "RIFT_CONFIG") arguments with
  | .help =>
      IO.print helpText
      return 0
  | .version =>
      IO.print versionText
      return 0
  | .misuse =>
      IO.eprintln "error: the arguments are not understood; see --help"
      return 2
  | .run i =>
      let config ← readText i.config
      let request ← match i.request with
        | some path => readText path
        | none => readInput
      match run i config request ⟨0, 0⟩ unreached with
      | .ok documents =>
          for document in documents do
            IO.println document.pretty
          return 0
      | .error failure =>
          IO.eprintln ("Error: " ++ failure.message)
          return 1

end VirtualService.CommandLine

def main (arguments : List String) : IO UInt32 := VirtualService.CommandLine.perform arguments
