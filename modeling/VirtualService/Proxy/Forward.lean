/-
  VirtualService/Proxy/Forward.lean
  =================================
  **Requests on their way to an origin.**

  A request is forwarded with its method, path, query, headers and body to the
  address of the origin; headers of the connection stay behind, and the target may
  add headers of its own.  What comes back becomes a canned response.

  `Outbound.ofRequest` is how `forward` of the HTTP broker puts a request
  together: `addressText` is its `target_url`, `queryText` its `encode_query`, and
  `headersOf` its `forwarded_headers`.
-/
import VirtualService.Imposter.Resolution
import VirtualService.Predicate.Normal
import VirtualService.Proxy.Address
import VirtualService.Request
import VirtualService.Text.Lossy
import VirtualService.Text.Upper

namespace VirtualService

/-- A request as it goes out. -/
structure Outbound where
  method : String
  address : Address
  /-- The headers, their names in lower case. -/
  headers : List (String × String)
  body : Option String
deriving Repr, Inhabited

/-- Why a request cannot go out. -/
inductive ForwardFault where
  | invalidMethod (method : String)
  /-- The address or a header is malformed. -/
  | malformed
deriving DecidableEq, Repr

namespace Outbound

/-! ### Parts of requests -/

/-- The texts of a parameter: those of its items if it is an array, else its own.  A text stands for
    itself, anything else is as JSON prints it. -/
def valueTexts (value : Json) : List String :=
  match value with
  | .arr items => items.map Json.plainText
  | other => [other.plainText]

/-- Parameters as a query string. -/
def queryText (parameters : Dict Json) : String :=
  let pairs := parameters.flatMap fun entry => (valueTexts entry.2).map fun text => (entry.1, text)
  "&".intercalate (pairs.map fun pair => String.ofList (Query.encodePair pair.1 pair.2))

/-- The text of the address: that of the target, then the path and the query of the request. -/
def addressText (request : Request) (target : ProxyTarget) : String :=
  let path := (request.text? "path").getD "/"
  let query := match Dict.find? request "query" with
    | some (.obj parameters) => queryText parameters
    | _ => ""
  let base := String.ofList ((target.origin.toList.reverse.dropWhile (· = '/')).reverse)
  if query.isEmpty then base ++ path else base ++ path ++ "?" ++ query

/-- The headers that are not forwarded. -/
def kept : List String := ["host", "content-length"]

/-- The headers of the request but those kept, then those of the target. -/
def headersOf (request : Request) (target : ProxyTarget) : List (String × String) :=
  let own := match Dict.find? request "headers" with
    | some (.obj headers) =>
        headers.filterMap fun entry =>
          if kept.contains (VirtualService.lowered entry.1) then none
          else entry.2.str?.map fun value => (entry.1, value)
    | _ => []
  own ++ target.injectedHeaders

/-! ### Validity -/

/-- Characters of methods and of names of headers. -/
def isTokenChar (c : Char) : Bool :=
  c.isAlphanum || "!#$%&'*+-.^_`|~".toList.contains c

def isToken (text : String) : Bool := !text.isEmpty && text.toList.all isTokenChar

/-- A value of a header holds no control characters but tabs. -/
def isHeaderValue (text : String) : Bool :=
  text.toList.all fun c => c = '\t' || (32 ≤ c.toNat && c.toNat != 127)

/-- The request that goes to the origin of a target. -/
def ofRequest (request : Request) (target : ProxyTarget) : Except ForwardFault Outbound :=
  let given := (request.text? "method").getD "GET"
  let method := uppered given
  let headers := headersOf request target
  if !isToken method then .error (.invalidMethod given)
  else match Address.ofText? (addressText request target) with
    | none => .error .malformed
    | some address =>
        if headers.all fun header => isToken header.1 && isHeaderValue header.2 then
          .ok {
            method := method
            address := address
            headers := headers.map fun header => (Ascii.lowered header.1, header.2)
            body := (request.text? "body").filter fun body => !body.isEmpty }
        else .error .malformed

/-! ### On the wire -/

/-- The headers as they are sent: what is accepted, unless that is said, and the length of a body. -/
def sentHeaders (o : Outbound) : List (String × String) :=
  let has (name : String) : Bool := o.headers.any fun header => header.1 == name
  o.headers ++
    (if has "accept" then [] else [("accept", "*/*")]) ++
    (match o.body with
      | some body =>
          if has "content-length" then []
          else [("content-length", String.ofList (Digits.ofNat body.utf8ByteSize))]
      | none => [])

/-- The first line as it is sent. -/
def requestLine (o : Outbound) : String := o.method ++ " " ++ o.address.target ++ " HTTP/1.1"

/-- The reply where the origin is not reached. -/
def unreached (o : Outbound) (target : ProxyTarget) : ProxyReply :=
  .unreachable target.origin ("error sending request for url (" ++ o.address.text ++ ")")

end Outbound

/-- The reply where the request cannot go out. -/
def ForwardFault.reply (target : ProxyTarget) : ForwardFault → ProxyReply
  | invalidMethod method => .invalid ("method '" ++ method ++ "': invalid HTTP method")
  | malformed => .unreachable target.origin "builder error"

/-- The canned response of what an origin has sent: of headers with one name the last counts. -/
def LiteralResponse.received (status : UInt16) (headers : List (String × String))
    (body : List UInt8) : LiteralResponse :=
  let lowerNames := headers.map fun header => (Ascii.lowered header.1, header.2)
  ⟨status, Dict.ofList lowerNames, some (.str (Lossy.text body)), []⟩

end VirtualService
