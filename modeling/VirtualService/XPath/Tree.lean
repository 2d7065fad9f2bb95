/-
  VirtualService/XPath/Tree.lean
  ==============================
  **Documents as numbered nodes.**

  The nodes of a document are numbered in document order: the root, then each
  node before what it holds, and the namespaces and the attributes of an element,
  the last one written first, before its children.  An axis is then a list of
  numbers.
-/
import VirtualService.Xml.Document
import VirtualService.XPath.Syntax

namespace VirtualService.XPath

/-- What a numbered node is. -/
inductive Kind where
  | root
  | element (name : Xml.Name)
  | attribute (name : Xml.Name)
  | space (qualifier : String)
  | text
  | comment
  | instruction (target : String)
deriving Repr, Inhabited

/-- A numbered node: its text if it has one of its own, its parent, and the number after the last
    node below it. -/
structure Entry where
  kind : Kind
  content : String
  parent : Nat
  stop : Nat
deriving Repr, Inhabited

/-- The nodes of a document by their numbers. -/
abbrev Tree := Array Entry

namespace Tree

/-! ### Numbering -/

/-- Add the namespaces in force in an element; of two for one prefix the first is in force. -/
def addSpaces (parent : Nat) : List String → List (String × String) → Tree → Tree
  | _, [], t => t
  | seen, (qualifier, uri) :: rest, t =>
      if seen.contains qualifier then addSpaces parent seen rest t
      else addSpaces parent (qualifier :: seen) rest (t.push ⟨.space qualifier, uri, parent, t.size + 1⟩)

/-- Add the attributes of an element. -/
def addAttributes (parent : Nat) (attributes : List Xml.Attribute) (t : Tree) : Tree :=
  attributes.reverse.foldl (fun t a => t.push ⟨.attribute a.name, a.value, parent, t.size + 1⟩) t

/-- Record where what is below a node ends. -/
def close (node : Nat) (t : Tree) : Tree :=
  match t[node]? with
  | some entry => t.setIfInBounds node { entry with stop := t.size }
  | none => t

mutual

/-- Add a node and all below it. -/
def addNode (parent : Nat) : Xml.Node → Tree → Tree
  | .element name spaces attributes children, t =>
      let opened := addSpaces t.size [] spaces (t.push ⟨.element name, "", parent, 0⟩)
      close t.size (addNodes t.size children (addAttributes t.size attributes opened))
  | .text content, t => t.push ⟨.text, content, parent, t.size + 1⟩
  | .comment content, t => t.push ⟨.comment, content, parent, t.size + 1⟩
  | .instruction target content, t =>
      t.push ⟨.instruction target, content.getD "", parent, t.size + 1⟩

def addNodes (parent : Nat) : List Xml.Node → Tree → Tree
  | [], t => t
  | node :: nodes, t => addNodes parent nodes (addNode parent node t)

end

/-- The numbered nodes of a document; the root is number 0. -/
def ofDocument (d : Xml.Document) : Tree :=
  close 0 (addNodes 0 d.children #[⟨.root, "", 0, 0⟩])

/-! ### Nodes -/

def kindOf (t : Tree) (node : Nat) : Kind :=
  match t[node]? with
  | some entry => entry.kind
  | none => .root

def isAttribute (t : Tree) (node : Nat) : Bool :=
  match t.kindOf node with
  | .attribute _ => true
  | _ => false

def isSpace (t : Tree) (node : Nat) : Bool :=
  match t.kindOf node with
  | .space _ => true
  | _ => false

/-- Attributes and namespaces stand beside the children of their element. -/
def isAside (t : Tree) (node : Nat) : Bool := t.isAttribute node || t.isSpace node

/-- The parent of a node; the root has none. -/
def parent? (t : Tree) (node : Nat) : Option Nat :=
  if node = 0 then none else t[node]?.map Entry.parent

def stopOf (t : Tree) (node : Nat) : Nat := (t[node]?.map Entry.stop).getD (node + 1)

/-- The numbers from one up to below another. -/
def span (start stop : Nat) : List Nat := List.range' start (stop - start)

/-- What is below a node, attributes and namespaces left out. -/
def descendants (t : Tree) (node : Nat) : List Nat :=
  (span (node + 1) (t.stopOf node)).filter fun n => !t.isAside n

def children (t : Tree) (node : Nat) : List Nat :=
  (t.descendants node).filter fun n => t.parent? n = some node

def attributes (t : Tree) (node : Nat) : List Nat :=
  (span (node + 1) (t.stopOf node)).filter fun n => t.isAttribute n && t.parent? n = some node

/-- The namespaces in force in an element. -/
def spaces (t : Tree) (node : Nat) : List Nat :=
  (span (node + 1) (t.stopOf node)).filter fun n => t.isSpace n && t.parent? n = some node

/-- The parent, its parent and so on; `fuel` bounds the depth. -/
def ancestorsFrom (t : Tree) : Nat → Nat → List Nat
  | 0, _ => []
  | fuel + 1, node =>
      match t.parent? node with
      | some p => p :: ancestorsFrom t fuel p
      | none => []

def ancestors (t : Tree) (node : Nat) : List Nat := t.ancestorsFrom t.size node

/-- The children of the parent; an attribute or a namespace has none beside it. -/
def siblings (t : Tree) (node : Nat) : List Nat :=
  if t.isAside node then []
  else match t.parent? node with
    | some p => t.children p
    | none => []

/-- The element that an attribute or a namespace belongs to; any other node is its own bearer. -/
def bearer (t : Tree) (node : Nat) : Nat :=
  if t.isAside node then (t.parent? node).getD node else node

/-- The nodes on an axis, nearest first and attributes as written; what follows an attribute is what
    follows its element. -/
def axis (t : Tree) (a : Axis) (node : Nat) : List Nat :=
  match a with
  | .child => t.children node
  | .descendant => t.descendants node
  | .parent => (t.parent? node).toList
  | .ancestor => t.ancestors node
  | .followingSibling => (t.siblings node).filter fun n => node < n
  | .precedingSibling => ((t.siblings node).filter fun n => n < node).reverse
  | .following => (span (t.stopOf (t.bearer node)) t.size).filter fun n => !t.isAside n
  | .preceding =>
      ((span 0 node).filter fun n => !t.isAside n && t.stopOf n ≤ node).reverse
  | .attribute => (t.attributes node).reverse
  | .space => t.spaces node
  | .self => [node]
  | .descendantOrSelf => node :: t.descendants node
  | .ancestorOrSelf => node :: t.ancestors node

/-- The text of a node: its own, or all text below it. -/
def textOf (t : Tree) (node : Nat) : String :=
  match t.kindOf node with
  | .root | .element _ =>
      String.join ((span (node + 1) (t.stopOf node)).map fun n =>
        match t[n]? with
        | some entry =>
            match entry.kind with
            | .text => entry.content
            | _ => ""
        | none => "")
  | _ => (t[node]?.map Entry.content).getD ""

/-- The expanded name of a node, as far as it has one. -/
def nameOf? (t : Tree) (node : Nat) : Option Xml.Name :=
  match t.kindOf node with
  | .element name => some name
  | .attribute name => some name
  | .space qualifier => some ⟨none, qualifier, none⟩
  | .instruction target => some ⟨none, target, none⟩
  | _ => none

end Tree

end VirtualService.XPath
