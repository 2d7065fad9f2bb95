/-
  VirtualService/XPath/Eval.lean
  ==============================
  **The value of an XPath expression.**

  A set of nodes is the list of their numbers in document order.  Operands are
  converted as an operator or function asks: a set of nodes is the text of its
  first node, a text the number it writes.  Unequal is the negation of equal, an
  order compares numbers only, and a number as a predicate asks for the place it
  is cut down to.  What cannot be evaluated has no value.
-/
import VirtualService.Text.Split
import VirtualService.XPath.Parser
import VirtualService.XPath.Tree

namespace VirtualService.XPath

/-- A value of an expression. -/
inductive Value where
  | nodes (set : List Nat)
  | number (x : Float)
  | text (s : String)
  | bool (b : Bool)
deriving Inhabited

/-! ### Conversions -/

/-- The number that a text writes between blanks. -/
def numberOfText (s : String) : Float :=
  match Digits.double? (Blank.trim s.toList) with
  | some x => x.toFloat
  | none => 0.0 / 0.0

/-- A number as text. -/
def textOfNumber (x : Float) : String :=
  if x.isInf then (if x < 0 then "-Infinity" else "Infinity")
  else String.ofList (Digits.plain (Double.ofFloat x))

/-- The text of the first node. -/
def firstText (t : Tree) (set : List Nat) : String :=
  match set with
  | n :: _ => t.textOf n
  | [] => ""

def Value.toText (t : Tree) : Value → String
  | .nodes set => firstText t set
  | .number x => textOfNumber x
  | .text s => s
  | .bool b => if b then "true" else "false"

def Value.toNumber (t : Tree) : Value → Float
  | .nodes set => numberOfText (firstText t set)
  | .number x => x
  | .text s => numberOfText s
  | .bool b => if b then 1 else 0

def Value.toBool : Value → Bool
  | .nodes set => !set.isEmpty
  | .number x => x != 0 && !x.isNaN
  | .text s => !s.isEmpty
  | .bool b => b

def Value.nodes? : Value → Option (List Nat)
  | .nodes set => some set
  | _ => none

/-! ### Sets of nodes -/

/-- Merge two ascending lists without repetition. -/
def mergeNodes : Nat → List Nat → List Nat → List Nat
  | 0, _, _ => []
  | _, [], bs => bs
  | _, as, [] => as
  | fuel + 1, a :: as, b :: bs =>
      if a = b then a :: mergeNodes fuel as bs
      else if a < b then a :: mergeNodes fuel as (b :: bs)
      else b :: mergeNodes fuel (a :: as) bs

/-- Nodes in document order, each once. -/
def ordered (nodes : List Nat) : List Nat := dedup (nodes.mergeSort (· ≤ ·))
where
  dedup : List Nat → List Nat
    | [] => []
    | n :: rest =>
        match dedup rest with
        | m :: more => if n = m then m :: more else n :: m :: more
        | [] => [n]

/-! ### Comparison -/

/-- Equality: of sets if some text is in both, of a set and a number or text if some node equals it. -/
def areEqual (t : Tree) (a b : Value) : Bool :=
  match a, b with
  | .nodes xs, .nodes ys =>
      let texts := ys.map t.textOf
      xs.any fun x => texts.contains (t.textOf x)
  | .nodes xs, .number n => xs.any fun x => numberOfText (t.textOf x) == n
  | .number n, .nodes xs => xs.any fun x => numberOfText (t.textOf x) == n
  | .nodes xs, .text s => xs.any fun x => t.textOf x == s
  | .text s, .nodes xs => xs.any fun x => t.textOf x == s
  | .bool _, _ | _, .bool _ => a.toBool == b.toBool
  | .number _, _ | _, .number _ => a.toNumber t == b.toNumber t
  | .text s, .text s' => s == s'

/-! ### Arithmetic -/

/-- The nearest integer, a half upward; what is cut down to zero keeps its sign. -/
def rounded (x : Float) : Float :=
  let y := x.floor
  if x == y then x
  else
    let z := (2.0 * x - y).floor
    if (Double.ofFloat x).negative != (Double.ofFloat z).negative then -z else z

/-- The place that a number as a predicate asks for. -/
def placeOf (x : Float) : Nat := if x ≥ 1 then x.toUInt64.toNat else 0

/-! ### Functions -/

/-- Where an expression is evaluated. -/
structure Context where
  tree : Tree
  spaces : List (String × String)
  node : Nat
  position : Nat
  size : Nat

/-- The characters of a text from a place on, as many as a length says; both may be no integers. -/
def substringOf (s : String) (start length : Float) : String :=
  let first := rounded start
  let stop := first + length
  String.ofList ((s.toList.zipIdx.filter fun (_, i) =>
    let p := (Float.ofNat (i + 1))
    p ≥ first && p < stop).map Prod.fst)

/-- Words with single blanks between them. -/
def normalized (s : String) : String :=
  let words := (s.toList.splitBy fun a b => Xml.isSpace a == Xml.isSpace b).filter fun w =>
    !(w.all Xml.isSpace)
  " ".intercalate (words.map String.ofList)

/-- What stands before and after the first occurrence of a text. -/
def around? (mark : List Char) : List Char → Option (List Char × List Char)
  | [] => if mark.isEmpty then some ([], []) else none
  | c :: cs =>
      if mark.isPrefixOf (c :: cs) then some ([], (c :: cs).drop mark.length)
      else (around? mark cs).map fun (before, after) => (c :: before, after)

/-- Replace the characters of one list by those at the same places of another, or drop them. -/
def translated (s source target : String) : String :=
  let table := source.toList.zipIdx
  String.ofList (s.toList.filterMap fun c =>
    match table.find? fun entry => entry.1 = c with
    | some (_, i) => target.toList[i]?
    | none => some c)

/-- A value from the name of the first node of a set, or of the current node. -/
def nameFunction (c : Context) (part : Xml.Name → String) (arguments : List Value) : Option Value :=
  let named (set : List Nat) : Value :=
    match set with
    | n :: _ => .text (((c.tree.nameOf? n).map part).getD "")
    | [] => .text ""
  match arguments with
  | [] => some (named [c.node])
  | [.nodes set] => some (named set)
  | _ => none

/-- A function of one text, or of the text of the current node. -/
def textFunction (c : Context) (f : String → Value) (arguments : List Value) : Option Value :=
  match arguments with
  | [] => some (f (c.tree.textOf c.node))
  | [a] => some (f (a.toText c.tree))
  | _ => none

/-- The value of a function. -/
def call (c : Context) (function : String) (arguments : List Value) : Option Value :=
  let t := c.tree
  match function, arguments with
  | "last", [] => some (.number (Float.ofNat c.size))
  | "position", [] => some (.number (Float.ofNat c.position))
  | "count", [.nodes set] => some (.number (Float.ofNat set.length))
  | "local-name", as => nameFunction c Xml.Name.localPart as
  | "namespace-uri", as => nameFunction c (fun n => n.space.getD "") as
  | "name", as => nameFunction c Xml.Name.text as
  | "string", as => textFunction c Value.text as
  | "string-length", as => textFunction c (fun s => .number (Float.ofNat s.length)) as
  | "normalize-space", as => textFunction c (fun s => .text (normalized s)) as
  | "number", as => textFunctionOrNumber as
  | "concat", a :: b :: rest => some (.text (String.join ((a :: b :: rest).map (Value.toText t))))
  | "contains", [a, b] => some (.bool (around? (b.toText t).toList (a.toText t).toList).isSome)
  | "starts-with", [a, b] => some (.bool ((b.toText t).toList.isPrefixOf (a.toText t).toList))
  | "substring-before", [a, b] =>
      some (.text (match around? (b.toText t).toList (a.toText t).toList with
        | some (before, _) => String.ofList before
        | none => ""))
  | "substring-after", [a, b] =>
      some (.text (match around? (b.toText t).toList (a.toText t).toList with
        | some (_, after) => String.ofList after
        | none => ""))
  | "substring", [a, b] => some (.text (substringOf (a.toText t) (b.toNumber t) (1.0 / 0.0)))
  | "substring", [a, b, n] =>
      some (.text (substringOf (a.toText t) (b.toNumber t) (rounded (n.toNumber t))))
  | "translate", [a, b, d] =>
      some (.text (translated (a.toText t) (b.toText t) (d.toText t)))
  | "boolean", [a] => some (.bool a.toBool)
  | "not", [a] => some (.bool (!a.toBool))
  | "true", [] => some (.bool true)
  | "false", [] => some (.bool false)
  | "sum", [.nodes set] =>
      some (.number (set.foldl (fun sum n => sum + numberOfText (t.textOf n)) 0))
  | "floor", [a] => some (.number (a.toNumber t).floor)
  | "ceiling", [a] => some (.number (a.toNumber t).ceil)
  | "round", [a] => some (.number (rounded (a.toNumber t)))
  | _, _ => none
where
  textFunctionOrNumber (arguments : List Value) : Option Value :=
    match arguments with
    | [] => some (.number (numberOfText (c.tree.textOf c.node)))
    | [a] => some (.number (a.toNumber c.tree))
    | _ => none

/-- The value of an operator that evaluates both operands. -/
def applyOperator (t : Tree) (op : Operator) (a b : Value) : Option Value :=
  let x := a.toNumber t
  let y := b.toNumber t
  match op with
  | .equal => some (.bool (areEqual t a b))
  | .unequal => some (.bool (!areEqual t a b))
  | .less => some (.bool (x < y))
  | .atMost => some (.bool (x ≤ y))
  | .greater => some (.bool (x > y))
  | .atLeast => some (.bool (x ≥ y))
  | .add => some (.number (x + y))
  | .subtract => some (.number (x - y))
  | .multiply => some (.number (x * y))
  | .divide => some (.number (x / y))
  | .modulo => some (.number ((Double.ofFloat x).remainder (Double.ofFloat y)).toFloat)
  | .union =>
      match a, b with
      | .nodes as, .nodes bs => some (.nodes (mergeNodes (as.length + bs.length + 1) as bs))
      | _, _ => none
  | .and => some (.bool (a.toBool && b.toBool))
  | .or => some (.bool (a.toBool || b.toBool))

/-! ### Node tests -/

/-- The namespace of a qualifier in a selector. -/
def Context.space? (c : Context) (qualifier : String) : Option String :=
  (c.spaces.find? fun entry => entry.1 = qualifier).map Prod.snd

/-- The name of a node if it is of the kind that an axis is about. -/
def principalName? (t : Tree) (axis : Axis) (node : Nat) : Option Xml.Name :=
  match axis, t.kindOf node with
  | .attribute, .attribute name => some name
  | .attribute, _ => none
  | .space, .space qualifier => some ⟨none, qualifier, none⟩
  | .space, _ => none
  | _, .element name => some name
  | _, _ => none

/-- Whether a node passes a test. -/
def passes (c : Context) (axis : Axis) (test : NodeTest) (node : Nat) : Bool :=
  match test, c.tree.kindOf node with
  | .any, _ => true
  | .text, .text => true
  | .comment, .comment => true
  | .instruction none, .instruction _ => true
  | .instruction (some wanted), .instruction target => wanted = target
  | .anyName, _ => (principalName? c.tree axis node).isSome
  | .anyNameIn q, _ =>
      match principalName? c.tree axis node with
      | some name => name.space.isSome && name.space = c.space? q
      | none => false
  | .name none localPart, _ =>
      match principalName? c.tree axis node with
      | some name => name.localPart = localPart && name.space.isNone
      | none => false
  | .name (some q) localPart, _ =>
      match principalName? c.tree axis node with
      | some name => name.localPart = localPart && name.space.isSome && name.space = c.space? q
      | none => false
  | _, _ => false

/-! ### Evaluation -/

/-- A predicate value holds at a place: a number asks for the place, all else for the truth. -/
def Value.holdsAt (v : Value) (place : Nat) : Bool :=
  match v with
  | .number x => placeOf x = place
  | other => other.toBool

/-- Keep the nodes at whose place the value holds; the first node is at `place`. -/
def keep (value : Nat → Nat → Option Value) : Nat → List Nat → Option (List Nat)
  | _, [] => some []
  | place, node :: rest =>
      match value node place with
      | none => none
      | some v =>
          (keep value (place + 1) rest).map fun kept =>
            if v.holdsAt place then node :: kept else kept

mutual

/-- The value of an expression. -/
def Expr.eval : Expr → Context → Option Value
  | .number x, _ => some (.number x)
  | .text s, _ => some (.text s)
  | .variable, _ => none
  | .root, _ => some (.nodes [0])
  | .current, c => some (.nodes [c.node])
  | .negate a, c => (Expr.eval a c).map fun v => .number (-(v.toNumber c.tree))
  | .call function arguments, c =>
      match evalAll arguments c with
      | some values => call c function values
      | none => none
  | .binary .or a b, c =>
      match Expr.eval a c with
      | none => none
      | some v => if v.toBool then some (.bool true)
                  else (Expr.eval b c).map fun w => .bool w.toBool
  | .binary .and a b, c =>
      match Expr.eval a c with
      | none => none
      | some v => if v.toBool then (Expr.eval b c).map fun w => .bool w.toBool
                  else some (.bool false)
  | .binary op a b, c =>
      match Expr.eval a c, Expr.eval b c with
      | some v, some w => applyOperator c.tree op v w
      | _, _ => none
  | .filter nodes predicate, c =>
      match Expr.eval nodes c with
      | some (.nodes set) =>
          (keep (fun node place =>
            Expr.eval predicate { c with node := node, position := place, size := set.length })
            1 set).map .nodes
      | _ => none
  | .path start steps, c =>
      match Expr.eval start c with
      | some (.nodes set) => (evalSteps steps c set).map .nodes
      | _ => none

def evalAll : List Expr → Context → Option (List Value)
  | [], _ => some []
  | e :: es, c =>
      match Expr.eval e c, evalAll es c with
      | some v, some vs => some (v :: vs)
      | _, _ => none

/-- The nodes that steps lead to. -/
def evalSteps : List PathStep → Context → List Nat → Option (List Nat)
  | [], _, set => some set
  | step :: steps, c, set =>
      match set.mapM fun node => evalStep step c node with
      | some found => evalSteps steps c (ordered found.flatten)
      | none => none

/-- The nodes that a step leads to from one node, in the order of its axis. -/
def evalStep : PathStep → Context → Nat → Option (List Nat)
  | .mk axis test predicates, c, node =>
      evalPredicates predicates c ((c.tree.axis axis node).filter fun n => passes c axis test n)

/-- The nodes that pass all predicates, each among those that passed the ones before. -/
def evalPredicates : List Expr → Context → List Nat → Option (List Nat)
  | [], _, nodes => some nodes
  | p :: ps, c, nodes =>
      match keep (fun node place =>
          Expr.eval p { c with node := node, position := place, size := nodes.length }) 1 nodes with
      | some kept => evalPredicates ps c kept
      | none => none

end

/-- The value of an expression at the root of a document. -/
def Expr.evalDocument (e : Expr) (spaces : List (String × String)) (d : Xml.Document) :
    Tree × Option Value :=
  let tree := Tree.ofDocument d
  (tree, e.eval ⟨tree, spaces, 0, 1, 1⟩)

end VirtualService.XPath
