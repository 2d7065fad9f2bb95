/-
  VirtualService/Yaml/Node.lean
  =============================
  **YAML documents as trees.**

  A node is a scalar, a sequence or a mapping.  Where a node is named by an anchor,
  an alias stands for the same node again.  A text holds one document at most.
-/
import VirtualService.Yaml.Token

namespace VirtualService.Yaml

/-- A node, with its tag if it has one. -/
inductive Node where
  | scalar (text : String) (plain : Bool) (tag : Option String)
  | sequence (items : List Node) (tag : Option String)
  | mapping (entries : List (Node × Node)) (tag : Option String)
deriving Inhabited

namespace Node

/-- The node where nothing is written. -/
def empty : Node := .scalar "" true none

end Node

/-- The nodes named so far, the latest first. -/
abbrev Anchors := List (String × Node)

/-- What stands before a node: its anchor and its tag. -/
structure Properties where
  anchor : Option String
  tag : Option String

/-- The stems of the handles of tags. -/
abbrev Handles := List (String × String)

def standardHandles : Handles := [("!", "!"), ("!!", "tag:yaml.org,2002:")]

/-- The full name of a tag. -/
def fullTag? (handles : Handles) (handle suffix : String) : Option String :=
  if handle.isEmpty then some suffix
  else (handles.find? fun entry => entry.1 = handle).map fun entry => entry.2 ++ suffix

/-- The properties before a node, and the tokens after them. -/
def properties? (handles : Handles) (ts : List Token) : Option (Properties × List Token) :=
  match ts with
  | .anchor a :: .tag h s :: rest => (fullTag? handles h s).map fun t => (⟨some a, some t⟩, rest)
  | .anchor a :: rest => some (⟨some a, none⟩, rest)
  | .tag h s :: .anchor a :: rest => (fullTag? handles h s).map fun t => (⟨some a, some t⟩, rest)
  | .tag h s :: rest => (fullTag? handles h s).map fun t => (⟨none, some t⟩, rest)
  | _ => some (⟨none, none⟩, ts)

/-- Add the name of a node. -/
def Anchors.add (named : Anchors) (p : Properties) (n : Node) : Anchors :=
  match p.anchor with
  | some name => (name, n) :: named
  | none => named

/-- Nothing is written before one of these tokens in a block. -/
def endsBlockItem (ts : List Token) : Bool :=
  match ts with
  | .key :: _ => true
  | .value :: _ => true
  | .blockEnd :: _ => true
  | _ => false

/-- Nothing is written before one of these tokens within brackets. -/
def endsFlowItem (ts : List Token) : Bool :=
  match ts with
  | .value :: _ => true
  | .flowEntry :: _ => true
  | .flowSequenceEnd :: _ => true
  | .flowMappingEnd :: _ => true
  | _ => false

/-! ### Reading -/

mutual

/-- A node.  `block` says that it may be a block, and `loose` that it may be a sequence of entries
    that do not stand to the right of their key. -/
def node? (handles : Handles) :
    Nat → Bool → Bool → List Token → Anchors → Option (Node × List Token × Anchors)
  | 0, _, _, _, _ => none
  | _ + 1, _, _, .alias name :: rest, named =>
      (named.find? fun entry => entry.1 = name).map fun entry => (entry.2, rest, named)
  | fuel + 1, block, loose, ts, named => do
      let (p, rest) ← properties? handles ts
      let (n, rest, named) ← match rest, block, loose with
        | .scalar text plain :: rest, _, _ => some (Node.scalar text plain p.tag, rest, named)
        | .flowSequenceStart :: rest, _, _ => do
            let (items, rest, named) ← flowItems? handles fuel true rest named
            some (Node.sequence items p.tag, rest, named)
        | .flowMappingStart :: rest, _, _ => do
            let (entries, rest, named) ← flowEntries? handles fuel true rest named
            some (Node.mapping entries p.tag, rest, named)
        | .blockEntry :: rest, _, true => do
            let (items, rest, named) ← looseItems? handles fuel (.blockEntry :: rest) named
            some (Node.sequence items p.tag, rest, named)
        | .blockSequenceStart :: rest, true, _ => do
            let (items, rest, named) ← blockItems? handles fuel rest named
            some (Node.sequence items p.tag, rest, named)
        | .blockMappingStart :: rest, true, _ => do
            let (entries, rest, named) ← blockEntries? handles fuel rest named
            some (Node.mapping entries p.tag, rest, named)
        | rest, _, _ =>
            if p.anchor.isSome || p.tag.isSome then some (Node.scalar "" true p.tag, rest, named)
            else none
      return (n, rest, named.add p n)

/-- The items of a sequence that is a block, up to its end. -/
def blockItems? (handles : Handles) :
    Nat → List Token → Anchors → Option (List Node × List Token × Anchors)
  | 0, _, _ => none
  | _ + 1, .blockEnd :: rest, named => some ([], rest, named)
  | fuel + 1, .blockEntry :: rest, named => do
      let (n, rest, named) ← match rest with
        | .blockEntry :: _ => some (Node.empty, rest, named)
        | .blockEnd :: _ => some (Node.empty, rest, named)
        | _ => node? handles fuel true false rest named
      let (ns, rest, named) ← blockItems? handles fuel rest named
      return (n :: ns, rest, named)
  | _ + 1, _, _ => none

/-- The items of a sequence without an end of its own. -/
def looseItems? (handles : Handles) :
    Nat → List Token → Anchors → Option (List Node × List Token × Anchors)
  | 0, _, _ => none
  | fuel + 1, .blockEntry :: rest, named => do
      let (n, rest, named) ←
        if endsBlockItem rest || rest.head? == some .blockEntry then some (Node.empty, rest, named)
        else node? handles fuel true false rest named
      let (ns, rest, named) ← looseItems? handles fuel rest named
      return (n :: ns, rest, named)
  | _ + 1, rest, named => some ([], rest, named)

/-- The entries of a mapping that is a block, up to its end. -/
def blockEntries? (handles : Handles) :
    Nat → List Token → Anchors → Option (List (Node × Node) × List Token × Anchors)
  | 0, _, _ => none
  | _ + 1, .blockEnd :: rest, named => some ([], rest, named)
  | fuel + 1, .key :: rest, named => do
      let (k, rest, named) ← blockItem? handles fuel rest named
      let (v, rest, named) ← match rest with
        | .value :: rest => blockItem? handles fuel rest named
        | _ => some (Node.empty, rest, named)
      let (es, rest, named) ← blockEntries? handles fuel rest named
      return ((k, v) :: es, rest, named)
  | _ + 1, _, _ => none

/-- A key or a value of a block. -/
def blockItem? (handles : Handles) :
    Nat → List Token → Anchors → Option (Node × List Token × Anchors)
  | 0, _, _ => none
  | fuel + 1, rest, named =>
      if endsBlockItem rest then some (Node.empty, rest, named)
      else node? handles fuel true true rest named

/-- The items of a sequence in brackets; an item may be a mapping with one entry. -/
def flowItems? (handles : Handles) :
    Nat → Bool → List Token → Anchors → Option (List Node × List Token × Anchors)
  | 0, _, _, _ => none
  | fuel + 1, first, ts, named =>
      match first, ts with
      | _, .flowSequenceEnd :: rest => some ([], rest, named)
      | false, .flowEntry :: .flowSequenceEnd :: rest => some ([], rest, named)
      | false, .flowEntry :: rest => flowItem? handles fuel rest named
      | true, rest => flowItem? handles fuel rest named
      | false, _ => none

/-- One item of a sequence in brackets, and those after it. -/
def flowItem? (handles : Handles) :
    Nat → List Token → Anchors → Option (List Node × List Token × Anchors)
  | 0, _, _ => none
  | fuel + 1, .key :: rest, named => do
      let (k, v, rest, named) ← flowPair? handles fuel rest named
      let (ns, rest, named) ← flowItems? handles fuel false rest named
      return (Node.mapping [(k, v)] none :: ns, rest, named)
  | fuel + 1, rest, named => do
      let (n, rest, named) ← node? handles fuel false false rest named
      let (ns, rest, named) ← flowItems? handles fuel false rest named
      return (n :: ns, rest, named)

/-- A key and its value within brackets. -/
def flowPair? (handles : Handles) :
    Nat → List Token → Anchors → Option (Node × Node × List Token × Anchors)
  | 0, _, _ => none
  | fuel + 1, rest, named => do
      let (k, rest, named) ←
        if endsFlowItem rest then some (Node.empty, rest, named)
        else node? handles fuel false false rest named
      match rest with
      | .value :: rest =>
          if endsFlowItem rest && rest.head? != some .value then
            return (k, Node.empty, rest, named)
          else
            let (v, rest, named) ← node? handles fuel false false rest named
            return (k, v, rest, named)
      | _ => return (k, Node.empty, rest, named)

/-- The entries of a mapping in brackets. -/
def flowEntries? (handles : Handles) :
    Nat → Bool → List Token → Anchors → Option (List (Node × Node) × List Token × Anchors)
  | 0, _, _, _ => none
  | fuel + 1, first, ts, named =>
      match first, ts with
      | _, .flowMappingEnd :: rest => some ([], rest, named)
      | false, .flowEntry :: .flowMappingEnd :: rest => some ([], rest, named)
      | false, .flowEntry :: rest => flowMember? handles fuel rest named
      | true, rest => flowMember? handles fuel rest named
      | false, _ => none

/-- One entry of a mapping in brackets, and those after it. -/
def flowMember? (handles : Handles) :
    Nat → List Token → Anchors → Option (List (Node × Node) × List Token × Anchors)
  | 0, _, _ => none
  | fuel + 1, .key :: rest, named => do
      let (k, v, rest, named) ← flowPair? handles fuel rest named
      let (es, rest, named) ← flowEntries? handles fuel false rest named
      return ((k, v) :: es, rest, named)
  | fuel + 1, rest, named => do
      let (k, rest, named) ← node? handles fuel false false rest named
      let (es, rest, named) ← flowEntries? handles fuel false rest named
      return ((k, Node.empty) :: es, rest, named)

end

/-! ### Documents -/

/-- The directives before a document: the handles they declare, and the tokens after them.  A version
    and each handle may be declared once. -/
def directives? (versioned : Bool) (handles : Handles) :
    List Token → Option (Handles × List Token)
  | .version major minor :: rest =>
      if versioned || major != ['1'] || !(minor == ['1'] || minor == ['2']) then none
      else directives? true handles rest
  | .tagHandle handle stem :: rest =>
      if handles.any fun entry => entry.1 = handle then none
      else directives? versioned ((handle, stem) :: handles) rest
  | rest => some (handles, rest)

/-- The node of a document, up to the end of the tokens. -/
def document? (handles : Handles) (ts : List Token) : Option Node := do
  let (n, rest, _) ← match ts with
    | [] => some (Node.empty, [], [])
    | .documentEnd :: _ => some (Node.empty, ts, [])
    | _ => node? handles (8 * ts.length + 8) true false ts []
  if rest.all (· == .documentEnd) then some n else none

/-- The document that a text holds; an empty one if there is nothing in it. -/
def Node.ofText? (text : String) : Option Node := do
  let ts ← tokens? text
  match ts with
  | [] => some Node.empty
  | .version .. :: _ => explicit ts
  | .tagHandle .. :: _ => explicit ts
  | .documentStart :: _ => explicit ts
  | _ => document? standardHandles ts
where
  explicit (ts : List Token) : Option Node := do
    let (declared, rest) ← directives? false [] ts
    match rest with
    | .documentStart :: rest => document? (declared ++ standardHandles) rest
    | _ => none

end VirtualService.Yaml
