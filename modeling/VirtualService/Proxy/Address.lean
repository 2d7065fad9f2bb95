/-
  VirtualService/Proxy/Address.lean
  =================================
  **Web addresses.**

  An address has an origin (scheme, host and port), a path, and perhaps a query and
  a fragment.  Reading it brings it into its normal form: dots in the path are
  resolved, the port of the scheme is left out, and what may not stand in an
  address is written as percent triples.
-/
import VirtualService.Query
import VirtualService.Text.Lower
import VirtualService.Text.Split

namespace VirtualService

/-- A web address in normal form. -/
structure Address where
  scheme : String
  host : String
  /-- The port, unless it is the one of the scheme. -/
  port : Option Nat
  path : String
  query : Option String
  fragment : Option String
deriving DecidableEq, Repr, Inhabited

namespace Address

/-- The path and the query, as they stand in the first line of a request. -/
def target (a : Address) : String :=
  match a.query with
  | none => a.path
  | some query => a.path ++ "?" ++ query

/-- Scheme, host and port. -/
def origin (a : Address) : String :=
  a.scheme ++ "://" ++ a.host ++
    match a.port with
    | none => ""
    | some port => ":" ++ String.ofList (Digits.ofNat port)

def text (a : Address) : String :=
  a.origin ++ a.target ++
    match a.fragment with
    | none => ""
    | some fragment => "#" ++ fragment

/-! ### Reading -/

/-- Characters with those of a set, and all beyond ASCII, written as percent triples. -/
def escaped (special : Char → Bool) (cs : List Char) : String :=
  String.ofList <| cs.flatMap fun c =>
    if c.toNat ≤ 32 || 127 ≤ c.toNat || special c then
      (String.utf8EncodeChar c).flatMap fun b =>
        ['%', Digits.upperHex (b.toNat / 16), Digits.upperHex (b.toNat % 16)]
    else [c]

def isPathSpecial (c : Char) : Bool := "\"#<>?`^\x7b\x7d".toList.contains c

def isQuerySpecial (c : Char) : Bool := ['"', '#', '<', '>', '\''].contains c

def isFragmentSpecial (c : Char) : Bool := ['"', '<', '>', '`'].contains c

/-- The dots that a segment stands for. -/
def dots (segment : List Char) : Nat :=
  match Ascii.lowered (String.ofList segment) with
  | "." => 1
  | "%2e" => 1
  | ".." => 2
  | ".%2e" => 2
  | "%2e." => 2
  | "%2e%2e" => 2
  | _ => 0

/-- The segments of a path, with dots resolved; `before` holds those already read, the last first. -/
def resolved (before : List (List Char)) : List (List Char) → List (List Char)
  | [] => before.reverse
  | segment :: rest =>
      let before := match dots segment with
        | 0 => segment :: before
        | 1 => if rest.isEmpty then [] :: before else before
        | _ => if rest.isEmpty then [] :: before.tail else before.tail
      resolved before rest

/-- A path in normal form. -/
def pathText (cs : List Char) : String :=
  let slashed := cs.map fun c => if c = '\\' then '/' else c
  let segments := match slashed with
    | '/' :: rest => Split.pieces '/' rest
    | _ => Split.pieces '/' slashed
  String.join ((resolved [] segments).map fun s => "/" ++ escaped isPathSpecial s)

/-- A character that no host may hold. -/
def isForbidden (c : Char) : Bool :=
  c.toNat ≤ 32 || c.toNat = 127 || "#/:<>?@[\\]^|%".toList.contains c

/-- A host and its port. -/
def authority? (defaultPort : Nat) (cs : List Char) : Option (String × Option Nat) :=
  let (host, port) := match Split.last? ':' cs with
    | some (host, port) => if port.all Digits.isDecimal then (host, port) else (cs, [])
    | none => (cs, [])
  let port := if port.isEmpty then defaultPort else Digits.value port
  if host.isEmpty || host.any isForbidden || 65535 < port then none
  else some (Ascii.lowered (String.ofList host), if port = defaultPort then none else some port)

/-- The address that a text writes; only those of the web are read. -/
def ofText? (text : String) : Option Address := do
  let cs := (Blank.trim text.toList).filter fun c => c != '\t' && c != '\n' && c != '\r'
  let (scheme, rest) ← Split.first? ':' cs
  let scheme := Ascii.lowered (String.ofList scheme)
  let defaultPort ←
    if scheme = "http" then some 80 else if scheme = "https" then some 443 else none
  let rest := rest.dropWhile fun c => c = '/' || c = '\\'
  let inAuthority (c : Char) : Bool := c != '/' && c != '\\' && c != '?' && c != '#'
  let (host, port) ← authority? defaultPort (rest.takeWhile inAuthority)
  let rest := rest.dropWhile inAuthority
  let (rest, fragment) := match Split.first? '#' rest with
    | some (before, after) => (before, some (escaped isFragmentSpecial after))
    | none => (rest, none)
  let (path, query) := match Split.first? '?' rest with
    | some (before, after) => (before, some (escaped isQuerySpecial after))
    | none => (rest, none)
  return ⟨scheme, host, port, pathText path, query, fragment⟩

end Address

end VirtualService
