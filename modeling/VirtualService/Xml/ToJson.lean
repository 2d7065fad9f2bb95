/-
  VirtualService/Xml/ToJson.lean
  ==============================
  **XML documents as JSON objects.**

  An element without attributes and child elements is its text.  Any other
  element is an object: `@name` for each attribute, each child element under its
  local name, children of one name in an array, and the trimmed text under
  `#text` unless it is empty.

  `toJson?` is `xml_to_value`, and `Node.toJson` is `element_to_value`.
-/
import VirtualService.Json.Basic
import VirtualService.Text.Split
import VirtualService.Xml.Parser

namespace VirtualService.Xml

/-- The text of those nodes that are text, joined. -/
def joinedText : List Node → String
  | [] => ""
  | .text content :: rest => content ++ joinedText rest
  | _ :: rest => joinedText rest

/-- The members that the attributes of an element make. -/
def attributeMembers (attributes : List Attribute) : Dict Json :=
  Dict.ofList (attributes.map fun a => ("@" ++ a.name.localPart, .str a.value))

/-- The value of an element with given members and a given text. -/
def valueOf (members : Dict Json) (text : String) : Json :=
  if members.isEmpty then .str text
  else
    let trimmed := Blank.trim text.toList
    if trimmed.isEmpty then .obj members
    else .obj (Dict.insert members "#text" (.str (String.ofList trimmed)))

mutual

/-- The value of a node; only elements are asked for theirs. -/
def Node.toJson : Node → Json
  | .element _ _ attributes children =>
      valueOf (Json.gatherAll (attributeMembers attributes) (childPairs children)) (joinedText children)
  | .text content => .str content
  | .comment _ => .str ""
  | .instruction _ _ => .str ""

/-- The child elements with their local names, in document order. -/
def childPairs : List Node → List (String × Json)
  | [] => []
  | .element name spaces attributes children :: rest =>
      (name.localPart, Node.toJson (.element name spaces attributes children)) :: childPairs rest
  | _ :: rest => childPairs rest

end

/-- A document as an object with its top element as the only member. -/
def Document.toJson? (d : Document) : Option Json :=
  match d.root? with
  | some (.element name spaces attributes children) =>
      some (.obj [(name.localPart, Node.toJson (.element name spaces attributes children))])
  | _ => none

/-- The object for an XML text; a text that does not begin with markup is not looked at. -/
def toJson? (text : String) : Option Json :=
  match Blank.trimStart text.toList with
  | '<' :: _ => (Document.ofText? text).bind Document.toJson?
  | _ => none

end VirtualService.Xml
