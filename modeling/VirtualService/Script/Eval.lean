/-
  VirtualService/Script/Eval.lean
  ===============================
  **Running scripts.**

  A script runs on a stack of variables and counts its operations; beyond a
  hundred thousand it fails.  How a statement leaves its block (with a break, for
  the next round, with the value of a function, or with a fault) is kept apart
  from values.  Texts, arrays and maps are values: a change goes back to the
  variable at the root of the place that is changed.

  One fixed part of the scripting language stands for every injector: a script is
  read by `ofText?` as `prepare` of the injector compiles it, and `decide` is its
  `evaluate`.  There is no `switch`, there are no closures and no modules; a
  script that uses them is refused when it is read.  What is proved of scripts
  needs only that a script is a function of the request.
-/
import VirtualService.Script.Parser
import VirtualService.Text.Split

namespace VirtualService.Script

/-! ### Machine -/

/-- How a statement leaves what is around it. -/
inductive Exit where
  | leave (value : Value)
  | next
  | give (value : Value)
  | fault (value : Value)
  /-- A fault that no handler takes. -/
  | stop

structure Variable where
  name : String
  constant : Bool
  value : Value

/-- The variables, the innermost first, the operations still allowed and the calls still allowed. -/
structure Machine where
  bound : List Variable
  operations : Nat
  calls : Nat

/-- A run from a machine to a result or an exit, and the machine after it. -/
abbrev Run (α : Type) := Machine → Except Exit α × Machine

namespace Run

def pure {α : Type} (a : α) : Run α := fun m => (.ok a, m)

def bind {α β : Type} (r : Run α) (f : α → Run β) : Run β := fun m =>
  match r m with
  | (.ok a, m) => f a m
  | (.error e, m) => (.error e, m)

instance : Monad Run where
  pure := Run.pure
  bind := Run.bind

/-- A fault without a value of its own. -/
def fail {α : Type} : Run α := fun m => (.error (.fault .unit), m)

def exit {α : Type} (e : Exit) : Run α := fun m => (.error e, m)

/-- A result, or a fault in its absence. -/
def ofOption {α : Type} (a : Option α) : Run α := fun m =>
  match a with
  | some a => (.ok a, m)
  | none => (.error (.fault .unit), m)

/-- Count one operation. -/
def tick : Run Unit := fun m =>
  match m.operations with
  | 0 => (.error .stop, m)
  | n + 1 => (.ok (), { m with operations := n })

/-- Run with the variables that are there now, and drop those declared in the meantime. -/
def inScope {α : Type} (r : Run α) : Run α := fun m =>
  let depth := m.bound.length
  let (result, m) := r m
  (result, { m with bound := m.bound.drop (m.bound.length - depth) })

/-- Run, and hand the value of a fault to a handler. -/
def handling {α : Type} (r : Run α) (handler : Value → Run α) : Run α := fun m =>
  match r m with
  | (.error (.fault v), m) => handler v m
  | (result, m) => (result, m)

end Run

/-- The most operations of a run. -/
def maxOperations : Nat := 100000

/-- The most calls within each other. -/
def maxCalls : Nat := 64

/-- A statement that only names a variable or writes a value; it counts only where it is the last. -/
def Stmt.isIdle : Stmt → Bool
  | .expr (.variable _) => true
  | .expr (.literal _) => true
  | _ => false

/-! ### Variables and places -/

/-- Change the value of the innermost variable of a name. -/
def update (name : String) (value : Value) : List Variable → Option (List Variable)
  | [] => none
  | v :: rest =>
      if v.name = name then if v.constant then none else some ({ v with value := value } :: rest)
      else (update name value rest).map fun rest => v :: rest

/-- One step into a value: an index or a member. -/
inductive PlaceStep where
  | index (i : Value)
  | member (name : String)

/-- A bit of an integer. -/
def bitOf (i : Int) (p : Nat) : Bool := (i % twoTo 64).toNat.testBit p

/-- What is at a step into a value. -/
def stepInto (a : Value) : PlaceStep → Option Value
  | .index i =>
      match a, i with
      | .array items, .int i => (Value.position? items.length i).bind fun p => items[p]?
      | .text s, .int i => (Value.position? s.length i).bind fun p => (s.toList[p]?).map .char
      | .map members, .text key => some ((Dict.find? members key).getD .unit)
      | .int n, .int i => (Value.position? 64 i).map fun p => .bool (bitOf n p)
      | _, _ => none
  | .member name =>
      match a with
      | .map members => some ((Dict.find? members name).getD .unit)
      | .text s =>
          match name with
          | "len" => some (.int s.length)
          | "is_empty" => some (.bool s.isEmpty)
          | "bytes" => some (.int s.utf8ByteSize)
          | _ => none
      | .array items =>
          match name with
          | "len" => some (.int items.length)
          | "is_empty" => some (.bool items.isEmpty)
          | _ => none
      | _ => none

/-- A value with another one at a step into it. -/
def stepSet (a : Value) (step : PlaceStep) (b : Value) : Option Value :=
  match step with
  | .index i =>
      match a, i with
      | .array items, .int i => (Value.position? items.length i).map fun p => .array (items.set p b)
      | .text s, .int i =>
          match b with
          | .char c => (Value.position? s.length i).map fun p =>
              .text (String.ofList (s.toList.set p c))
          | _ => none
      | .map members, .text key => some (.map (Dict.insert members key b))
      | _, _ => none
  | .member name =>
      match a with
      | .map members => some (.map (Dict.insert members name b))
      | _ => none

/-- A value with another one at the end of some steps into it. -/
def placeSet : List PlaceStep → Value → Value → Option Value
  | [], _, b => some b
  | step :: steps, a, b =>
      match stepInto a step with
      | some inner => (placeSet steps inner b).bind fun inner => stepSet a step inner
      | none => none

/-! ### Operators -/

/-- The value of an operator on floats. -/
def floatOperator (op : BinaryOp) (x y : Float) : Option Value :=
  match op with
  | .add => some (.float (x + y))
  | .subtract => some (.float (x - y))
  | .multiply => some (.float (x * y))
  | .divide => some (.float (x / y))
  | .modulo => some (.float ((Double.ofFloat x).remainder (Double.ofFloat y)).toFloat)
  | .power => some (.float (Float.pow x y))
  | _ => none

/-- The word of 64 bits of an integer. -/
def wordOf (i : Int) : Nat := (i % twoTo 64).toNat

/-- The integer of a word of 64 bits. -/
def ofWord (n : Nat) : Value := .int (if n < twoTo 63 then (n : Int) else (n : Int) - twoTo 64)

/-- The value of an operator on integers; what leaves 64 bits has none. -/
def intOperator (op : BinaryOp) (a b : Int) : Option Value :=
  match op with
  | .add => Value.checked (a + b)
  | .subtract => Value.checked (a - b)
  | .multiply => Value.checked (a * b)
  | .divide => if b = 0 then none else Value.checked (a.tdiv b)
  | .modulo => if b = 0 then none else Value.checked (a.tmod b)
  | .power => if b < 0 then none else Value.power a b.toNat
  | .shiftLeft => if 0 ≤ b ∧ b < 64 then some (ofWord (wordOf a * twoTo b.toNat % twoTo 64)) else none
  | .shiftRight => if 0 ≤ b ∧ b < 64 then some (.int (a / twoTo b.toNat)) else none
  | .bitAnd => some (ofWord (wordOf a &&& wordOf b))
  | .bitOr => some (ofWord (wordOf a ||| wordOf b))
  | .bitXor => some (ofWord (wordOf a ^^^ wordOf b))
  | _ => none

/-- Whether a value is within another. -/
def isWithin (a b : Value) : Option Value :=
  match b with
  | .map members =>
      match a with
      | .text key => some (.bool (Dict.contains members key))
      | _ => none
  | .text s => a.chars?.map fun part => .bool (Split.contains s.toList part.toList)
  | .array items => some (.bool (items.any fun item => item.equals a))
  | .range start stop =>
      match a with
      | .int i => some (.bool (start ≤ i && i < stop))
      | _ => none
  | _ => none

/-- The value of an operator on other operands. -/
def otherOperator (op : BinaryOp) (a b : Value) : Option Value :=
  match op, a, b with
  | .bitAnd, .bool x, .bool y => some (.bool (x && y))
  | .bitOr, .bool x, .bool y => some (.bool (x || y))
  | .bitXor, .bool x, .bool y => some (.bool (x != y))
  | .add, .array xs, .array ys => some (.array (xs ++ ys))
  | .add, .map xs, .map ys =>
      some (.map (ys.foldl (fun d entry => Dict.insert d entry.1 entry.2) xs))
  | .add, .text s, y => (Value.shown y).map fun t => .text (s ++ t)
  | .add, x, .text t => (Value.shown x).map fun s => .text (s ++ t)
  | .add, .char c, .char d => some (.text (String.ofList [c, d]))
  | _, _, _ => none

/-- The value of an operator. -/
def applyBinary (op : BinaryOp) (a b : Value) : Option Value :=
  let ordering (accept : Ordering → Bool) : Option Value :=
    some (.bool (((a.compare? b).map accept).getD false))
  match op with
  | .equal => some (.bool (a.equals b))
  | .unequal => some (.bool (!a.equals b))
  | .less => ordering fun o => o == .lt
  | .atMost => ordering fun o => o != .gt
  | .greater => ordering fun o => o == .gt
  | .atLeast => ordering fun o => o != .lt
  | .within => isWithin a b
  | .notWithin => (isWithin a b).map fun v =>
      match v with
      | .bool x => .bool (!x)
      | other => other
  | _ =>
      match a, b with
      | .int x, .int y => intOperator op x y
      | _, _ =>
          match a.number?, b.number? with
          | some x, some y => floatOperator op x y
          | _, _ => otherOperator op a b

def applyUnary (op : UnaryOp) (a : Value) : Option Value :=
  match op, a with
  | .not, .bool b => some (.bool (!b))
  | .negate, .int i => Value.checked (-i)
  | .negate, .float x => some (.float (-x))
  | .plus, .int i => some (.int i)
  | .plus, .float x => some (.float x)
  | _, _ => none

/-! ### Functions of the language -/

/-- The place of a text within another. -/
def indexOf (part : List Char) : Nat → List Char → Int
  | n, [] => if part.isEmpty then n else -1
  | n, c :: cs => if part.isPrefixOf (c :: cs) then n else indexOf part (n + 1) cs

/-- An integer written in decimal. -/
def readInt? (cs : List Char) : Option Value :=
  let (negative, ds) := match cs with
    | '-' :: rest => (true, rest)
    | '+' :: rest => (false, rest)
    | _ => (false, cs)
  if ds.isEmpty || !ds.all Digits.isDecimal then none
  else Value.checked (if negative then -(Digits.value ds : Int) else Digits.value ds)

/-- The value of a function of the language. -/
def builtin (function : String) (arguments : List Value) : Option Value :=
  match function, arguments with
  | "type_of", [a] => some (.text a.typeName)
  | "len", [.text s] => some (.int s.length)
  | "len", [.array items] => some (.int items.length)
  | "len", [.map members] => some (.int members.length)
  | "is_empty", [.text s] => some (.bool s.isEmpty)
  | "is_empty", [.array items] => some (.bool items.isEmpty)
  | "is_empty", [.map members] => some (.bool members.isEmpty)
  | "bytes", [.text s] => some (.int s.utf8ByteSize)
  | "to_upper", [.text s] => some (.text (uppered s))
  | "to_lower", [.text s] => some (.text (lowered s))
  | "to_upper", [.char c] => some (.text (uppered (String.singleton c)))
  | "to_lower", [.char c] => some (.text (lowered (String.singleton c)))
  | "contains", [b, a] => isWithin a b
  | "starts_with", [.text s, .text t] => some (.bool (t.toList.isPrefixOf s.toList))
  | "ends_with", [.text s, .text t] => some (.bool (t.toList.isSuffixOf s.toList))
  | "index_of", [.text s, a] => a.chars?.map fun t => .int (indexOf t.toList 0 s.toList)
  | "sub_string", [.text s, .int i] => some (.text (String.ofList (s.toList.drop (start s i))))
  | "sub_string", [.text s, .int i, .int n] =>
      some (.text (String.ofList ((s.toList.drop (start s i)).take n.toNat)))
  | "split", [.text s, .char c] =>
      some (.array ((Split.pieces c s.toList).map fun p => .text (String.ofList p)))
  | "split", [.text s, .text t] => some (.array ((s.splitOn t).map .text))
  | "to_string", [a] => a.shown.map .text
  | "parse_int", [.text s] => readInt? (Blank.trim s.toList)
  | "parse_float", [.text s] => (Digits.double? (Blank.trim s.toList)).map fun x => .float x.toFloat
  | "to_int", [.float x] => ((Double.ofFloat x.toInt64.toFloat).toInt?).bind Value.checked
  | "to_int", [.int i] => some (.int i)
  | "to_float", [.int i] => some (.float (Double.ofInt i).toFloat)
  | "to_float", [.float x] => some (.float x)
  | "abs", [.int i] => Value.checked i.natAbs
  | "abs", [.float x] => some (.float x.abs)
  | "floor", [.float x] => some (.float x.floor)
  | "ceiling", [.float x] => some (.float x.ceil)
  | "min", [a, b] => (a.compare? b).map fun o => if o == .gt then b else a
  | "max", [a, b] => (a.compare? b).map fun o => if o == .lt then b else a
  | "keys", [.map members] => some (.array (members.map fun entry => .text entry.1))
  | "values", [.map members] => some (.array (members.map Prod.snd))
  | "get", [.map members, .text key] => some ((Dict.find? members key).getD .unit)
  | "range", [.int a, .int b] => some (.range a b)
  | "print", [_] => some .unit
  | "debug", [_] => some .unit
  | _, _ => none
where
  start (s : String) (i : Int) : Nat := (if i < 0 then max ((s.length : Int) + i) 0 else i).toNat

/-- The value of a function that changes its first argument, and the argument after it. -/
def mutating (function : String) (target : Value) (arguments : List Value) :
    Option (Value × Value) :=
  match function, target, arguments with
  | "push", .array items, [a] => some (.unit, .array (items ++ [a]))
  | "pop", .array items, [] => some (items.getLast?.getD .unit, .array items.dropLast)
  | "shift", .array items, [] => some (items.head?.getD .unit, .array items.tail)
  | "reverse", .array items, [] => some (.unit, .array items.reverse)
  | "clear", .array _, [] => some (.unit, .array [])
  | "clear", .map _, [] => some (.unit, .map [])
  | "clear", .text _, [] => some (.unit, .text "")
  | "set", .map members, [.text key, a] => some (.unit, .map (Dict.insert members key a))
  | "remove", .map members, [.text key] =>
      some ((Dict.find? members key).getD .unit, .map (Dict.erase members key))
  | "trim", .text s, [] => some (.unit, .text (String.ofList (Blank.trim s.toList)))
  | "make_upper", .text s, [] => some (.unit, .text (uppered s))
  | "make_lower", .text s, [] => some (.unit, .text (lowered s))
  | _, _, _ => none

/-- The values that a loop goes through. -/
def elements? : Value → Option (List Value)
  | .array items => some items
  | .text s => some (s.toList.map .char)
  | .range a b => some ((List.range (min (b - a).toNat (maxOperations + 1))).map fun (i : Nat) => .int (a + (i : Int)))
  | _ => none

/-! ### Evaluation -/

/-- What a round of a loop leads to. -/
inductive Round where
  | again
  | done (value : Value)
  | exit (e : Exit)

/-- How a loop goes on after its body. -/
def roundOf (result : Except Exit Value) : Round :=
  match result with
  | .ok _ => .again
  | .error .next => .again
  | .error (.leave v) => .done v
  | .error e => .exit e

/-- A truth value, or a fault. -/
def truthOf (v : Value) : Run Value :=
  match v with
  | .bool b => pure (.bool b)
  | _ => Run.fail

/-- Find a variable. -/
def lookUp (name : String) : Run Value := fun m =>
  match m.bound.find? fun v => v.name = name with
  | some v => (.ok v.value, m)
  | none => (.error (.fault .unit), m)

def declare (name : String) (constant : Bool) (value : Value) : Run Unit := fun m =>
  (.ok (), { m with bound := ⟨name, constant, value⟩ :: m.bound })

/-- Declare a variable, if there is a name for it. -/
def declareFor (name : Option String) (value : Value) : Run Unit :=
  match name with
  | some name => declare name false value
  | none => pure ()

/-- Give the variable of a name another value. -/
def assignVariable (name : String) (value : Value) : Run Unit := fun m =>
  match update name value m.bound with
  | some bound => (.ok (), { m with bound := bound })
  | none => (.error (.fault .unit), m)

mutual

def evalExpr : Nat → List Function → Expr → Run Value
  | 0, _, _ => Run.exit .stop
  | fuel + 1, fs, e => do
      Run.tick
      match e with
      | .literal v => pure v
      | .variable name => lookUp name
      | .array items => return .array (← evalAll fuel fs items)
      | .map members => do
          let values ← evalAll fuel fs (members.map Prod.snd)
          return .map (Dict.ofList ((members.map Prod.fst).zip values))
      | .range a b inclusive => do
          let x ← evalExpr fuel fs a
          let y ← evalExpr fuel fs b
          match x, y with
          | .int a, .int b => return .range a (if inclusive then b + 1 else b)
          | _, _ => Run.fail
      | .unary op a => do Run.ofOption (applyUnary op (← evalExpr fuel fs a))
      | .binary op a b => do
          let x ← evalExpr fuel fs a
          let y ← evalExpr fuel fs b
          Run.ofOption (applyBinary op x y)
      | .and a b => do
          let x ← evalExpr fuel fs a
          match x with
          | .bool false => return .bool false
          | .bool true => truthOf (← evalExpr fuel fs b)
          | _ => Run.fail
      | .or a b => do
          let x ← evalExpr fuel fs a
          match x with
          | .bool true => return .bool true
          | .bool false => truthOf (← evalExpr fuel fs b)
          | _ => Run.fail
      | .orElse a b => do
          let x ← evalExpr fuel fs a
          match x with
          | .unit => evalExpr fuel fs b
          | v => return v
      | .index a i => do
          let x ← evalExpr fuel fs a
          let y ← evalExpr fuel fs i
          Run.ofOption (stepInto x (.index y))
      | .member a name => do Run.ofOption (stepInto (← evalExpr fuel fs a) (.member name))
      | .call function arguments => do
          let values ← evalAll fuel fs arguments
          callFunction fuel fs function values
      | .method a function arguments => do
          let values ← evalAll fuel fs arguments
          let target ← evalExpr fuel fs a
          match mutating function target values with
          | some (result, changed) =>
              assignPlace fuel fs a changed
              return result
          | none => callFunction fuel fs function (target :: values)
      | .block body => Run.inScope (evalStmts fuel fs body)
      | .ifElse condition body otherwise => do
          let x ← evalExpr fuel fs condition
          match x with
          | .bool true => Run.inScope (evalStmts fuel fs body)
          | .bool false => Run.inScope (evalStmts fuel fs otherwise)
          | _ => Run.fail
      | .whileDo condition body => whileLoop fuel fs condition body
      | .doWhile body condition negated => doLoop fuel fs body condition negated
      | .loop body => whileLoop fuel fs (.literal (.bool true)) body
      | .forIn name source body => do
          let items ← Run.ofOption (elements? (← evalExpr fuel fs source))
          forLoop fuel fs name items body
      | .tryCatch body name handler =>
          Run.handling (Run.inScope (evalStmts fuel fs body)) fun v => Run.inScope do
            declareFor name v
            evalStmts fuel fs handler

def evalAll : Nat → List Function → List Expr → Run (List Value)
  | 0, _, _ => Run.exit .stop
  | fuel + 1, fs, es =>
      match es with
      | [] => pure []
      | e :: es => do
          let v ← evalExpr fuel fs e
          let vs ← evalAll fuel fs es
          return v :: vs

/-- Call a function of the script, or one of the language. -/
def callFunction : Nat → List Function → String → List Value → Run Value
  | 0, _, _, _ => Run.exit .stop
  | fuel + 1, fs, name, values =>
      match fs.find? fun f => f.name = name && f.parameters.length = values.length with
      | none => Run.ofOption (builtin name values)
      | some f => fun m =>
          match m.calls with
          | 0 => (.error .stop, m)
          | calls + 1 =>
              let inner : Machine :=
                { m with
                  bound := (f.parameters.zip values).map fun (n, v) => ⟨n, false, v⟩
                  calls := calls }
              let (result, after) := evalStmts fuel fs f.body inner
              let m := { m with operations := after.operations }
              match result with
              | .error (.give v) => (.ok v, m)
              | other => (other, m)

/-- Put a value into a place. -/
def assignPlace : Nat → List Function → Expr → Value → Run Unit
  | 0, _, _, _ => Run.exit .stop
  | fuel + 1, fs, target, value => do
      let (root, steps) ← placeOf fuel fs target
      match root with
      | none => pure ()
      | some name =>
          let whole ← lookUp name
          let changed ← Run.ofOption (placeSet steps whole value)
          assignVariable name changed

/-- The variable at the root of a place, and the steps from there. -/
def placeOf : Nat → List Function → Expr → Run (Option String × List PlaceStep)
  | 0, _, _ => Run.exit .stop
  | fuel + 1, fs, target =>
      match target with
      | .variable name => pure (some name, [])
      | .member a name => do
          let (root, steps) ← placeOf fuel fs a
          return (root, steps ++ [.member name])
      | .index a i => do
          let (root, steps) ← placeOf fuel fs a
          let i ← evalExpr fuel fs i
          return (root, steps ++ [.index i])
      | _ => pure (none, [])

def evalStmt : Nat → List Function → Stmt → Run Value
  | 0, _, _ => Run.exit .stop
  | fuel + 1, fs, s => do
      Run.tick
      match s with
      | .expr e => evalExpr fuel fs e
      | .declare name constant value => do
          let v ← match value with
            | some e => evalExpr fuel fs e
            | none => pure .unit
          declare name constant v
          return .unit
      | .assign target op value => do
          let v ← evalExpr fuel fs value
          match op with
          | none => assignPlace fuel fs target v
          | some op => do
              let old ← evalExpr fuel fs target
              let new ← Run.ofOption (applyBinary op old v)
              assignPlace fuel fs target new
          return .unit
      | .give value => do Run.exit (.give (← evalOptional fuel fs value))
      | .leave value => do Run.exit (.leave (← evalOptional fuel fs value))
      | .next => Run.exit .next
      | .throw value => do Run.exit (.fault (← evalOptional fuel fs value))

def evalOptional : Nat → List Function → Option Expr → Run Value
  | 0, _, _ => Run.exit .stop
  | fuel + 1, fs, value =>
      match value with
      | some e => evalExpr fuel fs e
      | none => pure .unit

/-- Statements in a row; the value is that of the last one. -/
def evalStmts : Nat → List Function → List Stmt → Run Value
  | 0, _, _ => Run.exit .stop
  | fuel + 1, fs, ss =>
      match ss with
      | [] => pure .unit
      | [s] => evalStmt fuel fs s
      | s :: ss => do
          if s.isIdle then evalStmts fuel fs ss
          else
            let _ ← evalStmt fuel fs s
            evalStmts fuel fs ss

def whileLoop : Nat → List Function → Expr → List Stmt → Run Value
  | 0, _, _, _ => Run.exit .stop
  | fuel + 1, fs, condition, body => fun m =>
      match evalExpr fuel fs condition m with
      | (.ok (.bool true), m) =>
          match Run.inScope (evalStmts fuel fs body) m with
          | (result, m) =>
              match roundOf result with
              | .again => whileLoop fuel fs condition body m
              | .done v => (.ok v, m)
              | .exit e => (.error e, m)
      | (.ok (.bool false), m) => (.ok .unit, m)
      | (.ok _, m) => (.error (.fault .unit), m)
      | (.error e, m) => (.error e, m)

def doLoop : Nat → List Function → List Stmt → Expr → Bool → Run Value
  | 0, _, _, _, _ => Run.exit .stop
  | fuel + 1, fs, body, condition, negated => fun m =>
      match Run.inScope (evalStmts fuel fs body) m with
      | (result, m) =>
          match roundOf result with
          | .done v => (.ok v, m)
          | .exit e => (.error e, m)
          | .again =>
              match evalExpr fuel fs condition m with
              | (.ok (.bool b), m) =>
                  if b != negated then doLoop fuel fs body condition negated m else (.ok .unit, m)
              | (.ok _, m) => (.error (.fault .unit), m)
              | (.error e, m) => (.error e, m)

def forLoop : Nat → List Function → String → List Value → List Stmt → Run Value
  | 0, _, _, _, _ => Run.exit .stop
  | fuel + 1, fs, name, items, body => fun m =>
      match items with
      | [] => (.ok .unit, m)
      | item :: items =>
          match Run.inScope (do Run.tick; declare name false item; evalStmts fuel fs body) m with
          | (result, m) =>
              match roundOf result with
              | .again => forLoop fuel fs name items body m
              | .done v => (.ok v, m)
              | .exit e => (.error e, m)

end

/-! ### Decisions -/

/-- Why a script does not decide. -/
inductive Failure where
  | execution
  /-- The result is of another type than a truth value. -/
  | notBoolean (type : String)
deriving DecidableEq, Repr

def Failure.message : Failure → String
  | execution => "Script execution error"
  | notBoolean type => "Inject predicate must return a boolean, got " ++ type

/-- The value of a script that sees a map under the name `request`. -/
def Program.run (p : Program) (request : Dict Json) : Except Failure Value :=
  let start : Machine :=
    { bound := [⟨"request", false, Value.ofJson (.obj request)⟩]
      operations := maxOperations
      calls := maxCalls }
  match (evalStmts 1000000 p.functions p.body start).1 with
  | .ok v => .ok v
  | .error (.give v) => .ok v
  | .error _ => .error .execution

/-- The decision of a script about a request. -/
def Program.decide (p : Program) (request : Dict Json) : Except Failure Bool :=
  match p.run request with
  | .ok (.bool b) => .ok b
  | .ok v => .error (.notBoolean v.typeName)
  | .error e => .error e

end VirtualService.Script
