/-
  VirtualService/Xml/Document.lean
  ================================
  **XML documents.**

  A document is the list of what stands at its top: one element, with comments
  and processing instructions around it.  Names are kept as they were written
  together with the namespace that they stand for.  Text is kept in the pieces
  in which it was written: a run of characters, a reference, a marked section.
-/

namespace VirtualService.Xml

/-- The name of an element or an attribute. -/
structure Name where
  qualifier : Option String
  localPart : String
  space : Option String
deriving DecidableEq, Repr, Inhabited

/-- The name as written. -/
def Name.text (n : Name) : String :=
  match n.qualifier with
  | some q => q ++ ":" ++ n.localPart
  | none => n.localPart

structure Attribute where
  name : Name
  value : String
deriving DecidableEq, Repr, Inhabited

/-- What an element or a document can hold.  An element knows the prefixes in force in it with their
    namespaces, the innermost declaration of a prefix first. -/
inductive Node where
  | element (name : Name) (spaces : List (String × String)) (attributes : List Attribute)
      (children : List Node)
  | text (content : String)
  | comment (content : String)
  | instruction (target : String) (content : Option String)
deriving Repr, Inhabited

/-- A document: what stands at its top, in order. -/
structure Document where
  children : List Node
deriving Repr, Inhabited

def Node.isElement : Node → Bool
  | .element .. => true
  | _ => false

/-- The element at the top of a document. -/
def Document.root? (d : Document) : Option Node := d.children.find? Node.isElement

end VirtualService.Xml
