/-
  VirtualService/Imposter/Registry.lean
  =====================================
  **Imposters by port.**

  A registry holds at most one imposter on a port, in the order of the ports.  An
  imposter that is deleted is closed, and its last definition is handed out.

  `create`, `get`, `delete` and `deleteAll` are the functions of those names of
  the `ImposterRegistry`.
-/
import VirtualService.Imposter.Handling

namespace VirtualService

/-- The running imposters, in ascending order of their ports. -/
structure Registry where
  imposters : List Imposter
  capabilities : Capabilities

namespace Registry

def empty (c : Capabilities) : Registry := ⟨[], c⟩

def ports (r : Registry) : List UInt16 := r.imposters.map Imposter.port

def find? (r : Registry) (port : UInt16) : Option Imposter :=
  r.imposters.find? fun i => i.port = port

def get (r : Registry) (port : UInt16) : Except ImposterError Imposter :=
  match r.find? port with
  | some i => .ok i
  | none => .error (.notFound port)

/-- Put an imposter in its place in the order of the ports. -/
def place (i : Imposter) : List Imposter → List Imposter
  | [] => [i]
  | other :: rest => if i.port < other.port then i :: other :: rest else other :: place i rest

/-- Create an imposter on a port that is free. -/
def create (r : Registry) (d : ImposterDefinition) : Except ImposterError Imposter × Registry :=
  match r.find? d.port with
  | some _ => (.error (.portInUse d.port), r)
  | none =>
      match Imposter.build r.capabilities d with
      | .error e => (.error e, r)
      | .ok i => (.ok i, { r with imposters := place i r.imposters })

/-- Replace the imposter on the port of another one by it. -/
def update (r : Registry) (i : Imposter) : Registry :=
  { r with imposters := r.imposters.map fun other => if other.port = i.port then i else other }

/-- Close the imposter on a port and take it out; it comes back as it is then. -/
def delete (r : Registry) (port : UInt16) : Except ImposterError Imposter × Registry :=
  match r.find? port with
  | none => (.error (.notFound port), r)
  | some i =>
      (.ok i.close, { r with imposters := r.imposters.filter fun other => other.port != port })

/-- Close all imposters and take them out; they come back in the order of their ports. -/
def deleteAll (r : Registry) : List Imposter × Registry :=
  (r.imposters.map Imposter.close, { r with imposters := [] })

end Registry

end VirtualService
