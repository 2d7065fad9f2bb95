/-
  VirtualService/Request.lean
  ===========================
  **Requests as the matching engine sees them.**

  A request is a flat map from field names to JSON values, whatever its protocol.
  Requests that arrive by HTTP are put into that form here: the query and an
  urlencoded body become objects, the headers an object in which the last value
  of a name counts, and the sender's address loses its port.

  `HttpParts.toRequest` is `build` of the service's `HttpRequestBuilder`, and
  `Request.hostOf` is `ip_of`.
-/
import VirtualService.Query
import VirtualService.Text.Lower

namespace VirtualService

/-- A request of any protocol: its fields by name. -/
abbrev Request := Dict Json

/-- The parts of an HTTP request as a transport hands them over. -/
structure HttpParts where
  method : String
  path : String
  query : Option String
  headers : List (String × String)
  body : Option String
  sender : Option String

namespace Request

/-- A field with a text, or nothing. -/
def text? (request : Request) (field : String) : Option String :=
  (Dict.find? request field).bind Json.str?

/-- The host of a `host:port` address.  A host in brackets is what stands before the first closing
    bracket; otherwise a port is digits after the only colon. -/
def hostOf (address : List Char) : List Char :=
  match address with
  | '[' :: rest => (Split.pieces ']' rest).headD rest
  | _ =>
      match Split.last? ':' address with
      | some (host, port) =>
          if !host.contains ':' && port.all Digits.isDecimal then host else address
      | none => address

/-- The content type of a form in the body. -/
def formType : String := "application/x-www-form-urlencoded"

end Request

namespace HttpParts

/-- Some header declares the body to be a form. -/
def isForm (parts : HttpParts) : Bool :=
  parts.headers.any fun (name, value) =>
    Ascii.same name "content-type" && Split.contains value.toList Request.formType.toList

/-- The query without the question marks in front. -/
def queryText (parts : HttpParts) : String :=
  String.ofList ((parts.query.getD "").toList.dropWhile (· = '?'))

/-- The fields of an HTTP request. -/
def toRequest (parts : HttpParts) : Request :=
  let sender := match parts.sender with
    | none => []
    | some address =>
        [("requestFrom", Json.str address),
         ("ip", Json.str (String.ofList (Request.hostOf address.toList)))]
  let body := parts.body.getD ""
  let form := if parts.isForm then [("form", Json.obj (Query.parse body))] else []
  let headers := Dict.ofList (parts.headers.map fun (name, value) => (name, Json.str value))
  Dict.ofList (sender ++
    [("method", .str parts.method), ("path", .str parts.path),
     ("query", .obj (Query.parse parts.queryText))] ++
    form ++ [("headers", .obj headers), ("body", .str body)])

end HttpParts

end VirtualService
