/-
  VirtualService/Script/Parser.lean
  =================================
  **Reading scripts.**

  Statements end with a semicolon, except after a block and at the end.
  Functions are defined at the top only.  Loops may be left only from within.
-/
import VirtualService.Script.Token

namespace VirtualService.Script

/-! ### Operators -/

/-- Two conditions that must both be true.  A condition that is written as a truth value decides at
    once or drops out. -/
def Expr.conjunction : Expr → Expr → Expr
  | .literal (.bool true), b => b
  | .literal (.bool false), _ => .literal (.bool false)
  | a, .literal (.bool true) => a
  | a, b => .and a b

/-- Two conditions of which one must be true. -/
def Expr.disjunction : Expr → Expr → Expr
  | .literal (.bool false), b => b
  | .literal (.bool true), _ => .literal (.bool true)
  | a, .literal (.bool false) => a
  | a, b => .or a b

/-- What an operator mark builds, and how tightly it binds. -/
def operator? (mark : String) : Option (Nat × (Expr → Expr → Expr)) :=
  let op (o : BinaryOp) : Expr → Expr → Expr := .binary o
  match mark with
  | "||" => some (30, .disjunction)
  | "|" => some (30, op .bitOr)
  | "^" => some (30, op .bitXor)
  | "&&" => some (60, .conjunction)
  | "&" => some (60, op .bitAnd)
  | "==" => some (90, op .equal)
  | "!=" => some (90, op .unequal)
  | "<" => some (130, op .less)
  | "<=" => some (130, op .atMost)
  | ">" => some (130, op .greater)
  | ">=" => some (130, op .atLeast)
  | "??" => some (135, .orElse)
  | ".." => some (140, fun a b => .range a b false)
  | "..=" => some (140, fun a b => .range a b true)
  | "+" => some (150, op .add)
  | "-" => some (150, op .subtract)
  | "*" => some (180, op .multiply)
  | "/" => some (180, op .divide)
  | "%" => some (180, op .modulo)
  | "**" => some (190, op .power)
  | "<<" => some (210, op .shiftLeft)
  | ">>" => some (210, op .shiftRight)
  | _ => none

/-- The operator at the head of some tokens: what it builds, how tightly it binds, whether it groups
    to the right, and the tokens after it. -/
def operatorAt? (ts : List Token) : Option (Nat × (Expr → Expr → Expr) × Bool × List Token) :=
  match ts with
  | .word "in" :: rest => some (110, .binary .within, false, rest)
  | .mark "!" :: .word "in" :: rest => some (110, .binary .notWithin, false, rest)
  | .mark m :: rest => (operator? m).map fun (level, build) => (level, build, m = "**", rest)
  | _ => none

/-- The assignment at the head of some tokens. -/
def assignment? (ts : List Token) : Option (Option BinaryOp × List Token) :=
  match ts with
  | .mark m :: rest =>
      let op : Option (Option BinaryOp) := match m with
        | "=" => some none
        | "+=" => some (some .add)
        | "-=" => some (some .subtract)
        | "*=" => some (some .multiply)
        | "/=" => some (some .divide)
        | "%=" => some (some .modulo)
        | "**=" => some (some .power)
        | "<<=" => some (some .shiftLeft)
        | ">>=" => some (some .shiftRight)
        | "&=" => some (some .bitAnd)
        | "|=" => some (some .bitOr)
        | "^=" => some (some .bitXor)
        | _ => none
      op.map fun op => (op, rest)
  | _ => none

/-- Words with a meaning of their own. -/
def keywords : List String :=
  ["let", "const", "if", "else", "while", "loop", "do", "until", "for", "in", "fn", "return",
   "break", "continue", "throw", "try", "catch", "switch", "true", "false"]

/-- What may stand on the left of an assignment. -/
def Expr.isTarget : Expr → Bool
  | .variable _ => true
  | .index a _ => a.isTarget
  | .member a _ => a.isTarget
  | _ => false

/-- An expression that ends with a block and needs no semicolon after it. -/
def Expr.endsWithBlock : Expr → Bool
  | .block _ => true
  | .ifElse _ _ _ => true
  | .whileDo _ _ => true
  | .loop _ => true
  | .forIn _ _ _ => true
  | .tryCatch _ _ _ => true
  | _ => false

/-! ### Expressions and statements

The flag tells whether a loop is around. -/

mutual

/-- An expression of operators that bind at least as tightly as a level. -/
def binary? : Nat → Bool → Nat → List Token → Option (Expr × List Token)
  | 0, _, _, _ => none
  | fuel + 1, inLoop, level, ts =>
      match unary? fuel inLoop ts with
      | some (a, rest) => operators? fuel inLoop level a rest
      | none => none

def operators? : Nat → Bool → Nat → Expr → List Token → Option (Expr × List Token)
  | 0, _, _, _, _ => none
  | fuel + 1, inLoop, level, a, ts =>
      match operatorAt? ts with
      | none => some (a, ts)
      | some (bound, build, toRight, rest) =>
          if bound < level then some (a, ts)
          else match binary? fuel inLoop (if toRight then bound else bound + 1) rest with
            | some (b, rest) => operators? fuel inLoop level (build a b) rest
            | none => none

def unary? : Nat → Bool → List Token → Option (Expr × List Token)
  | 0, _, _ => none
  | fuel + 1, inLoop, ts =>
      match ts with
      | .mark "!" :: rest =>
          (unary? fuel inLoop rest).map fun (a, rest) => (.unary .not a, rest)
      | .mark "-" :: .int i :: rest => suffixes? fuel inLoop (.literal (.int (-i))) rest
      | .mark "-" :: rest =>
          (unary? fuel inLoop rest).map fun (a, rest) => (.unary .negate a, rest)
      | .mark "+" :: rest =>
          (unary? fuel inLoop rest).map fun (a, rest) => (.unary .plus a, rest)
      | _ =>
          match primary? fuel inLoop ts with
          | some (a, rest) => suffixes? fuel inLoop a rest
          | none => none

/-- Indices, members and calls after a value. -/
def suffixes? : Nat → Bool → Expr → List Token → Option (Expr × List Token)
  | 0, _, _, _ => none
  | fuel + 1, inLoop, a, ts =>
      match ts with
      | .mark "[" :: rest =>
          match binary? fuel inLoop 0 rest with
          | some (i, .mark "]" :: rest) => suffixes? fuel inLoop (.index a i) rest
          | _ => none
      | .mark "." :: .word name :: .mark "(" :: rest =>
          match arguments? fuel inLoop rest with
          | some (as, rest) => suffixes? fuel inLoop (.method a name as) rest
          | none => none
      | .mark "." :: .word name :: rest => suffixes? fuel inLoop (.member a name) rest
      | _ => some (a, ts)

/-- Arguments up to and with the closing parenthesis. -/
def arguments? : Nat → Bool → List Token → Option (List Expr × List Token)
  | 0, _, _ => none
  | fuel + 1, inLoop, ts =>
      match ts with
      | .mark ")" :: rest => some ([], rest)
      | _ =>
          match binary? fuel inLoop 0 ts with
          | some (a, .mark "," :: rest) =>
              (arguments? fuel inLoop rest).map fun (as, rest) => (a :: as, rest)
          | some (a, .mark ")" :: rest) => some ([a], rest)
          | _ => none

/-- Items up to and with the closing bracket. -/
def items? : Nat → Bool → List Token → Option (List Expr × List Token)
  | 0, _, _ => none
  | fuel + 1, inLoop, ts =>
      match ts with
      | .mark "]" :: rest => some ([], rest)
      | _ =>
          match binary? fuel inLoop 0 ts with
          | some (a, .mark "," :: rest) =>
              (items? fuel inLoop rest).map fun (as, rest) => (a :: as, rest)
          | some (a, .mark "]" :: rest) => some ([a], rest)
          | _ => none

/-- Members up to and with the closing brace. -/
def members? : Nat → Bool → List Token → Option (List (String × Expr) × List Token)
  | 0, _, _ => none
  | fuel + 1, inLoop, ts =>
      let member (key : String) (rest : List Token) :
          Option (List (String × Expr) × List Token) :=
        match binary? fuel inLoop 0 rest with
        | some (a, .mark "," :: rest) =>
            (members? fuel inLoop rest).map fun (ms, rest) => ((key, a) :: ms, rest)
        | some (a, .mark "\x7d" :: rest) => some ([(key, a)], rest)
        | _ => none
      match ts with
      | .mark "\x7d" :: rest => some ([], rest)
      | .word key :: .mark ":" :: rest => member key rest
      | .text key :: .mark ":" :: rest => member key rest
      | _ => none

/-- A block after its opening brace. -/
def block? : Nat → Bool → List Token → Option (List Stmt × List Token)
  | 0, _, _ => none
  | fuel + 1, inLoop, ts =>
      match statements? fuel inLoop ts with
      | some (body, .mark "\x7d" :: rest) => some (body, rest)
      | _ => none

/-- What follows the condition of a choice and its block. -/
def otherwise? : Nat → Bool → List Token → Option (List Stmt × List Token)
  | 0, _, _ => none
  | fuel + 1, inLoop, ts =>
      match ts with
      | .word "else" :: .mark "\x7b" :: rest => block? fuel inLoop rest
      | .word "else" :: .word "if" :: rest =>
          (primary? fuel inLoop (.word "if" :: rest)).map fun (e, rest) => ([.expr e], rest)
      | .word "else" :: _ => none
      | _ => some ([], ts)

def primary? : Nat → Bool → List Token → Option (Expr × List Token)
  | 0, _, _ => none
  | fuel + 1, inLoop, ts =>
      match ts with
      | .int i :: rest => some (.literal (.int i), rest)
      | .float x :: rest => some (.literal (.float x), rest)
      | .char c :: rest => some (.literal (.char c), rest)
      | .text s :: rest => some (.literal (.text s), rest)
      | .mark "(" :: .mark ")" :: rest => some (.literal .unit, rest)
      | .mark "(" :: rest =>
          match binary? fuel inLoop 0 rest with
          | some (a, .mark ")" :: rest) => some (a, rest)
          | _ => none
      | .mark "[" :: rest =>
          (items? fuel inLoop rest).map fun (items, rest) => (.array items, rest)
      | .mark "#\x7b" :: rest =>
          (members? fuel inLoop rest).map fun (members, rest) => (.map members, rest)
      | .mark "\x7b" :: rest =>
          (block? fuel inLoop rest).map fun (body, rest) => (.block body, rest)
      | .word "true" :: rest => some (.literal (.bool true), rest)
      | .word "false" :: rest => some (.literal (.bool false), rest)
      | .word "if" :: rest =>
          match binary? fuel inLoop 0 rest with
          | some (condition, .mark "\x7b" :: rest) =>
              match block? fuel inLoop rest with
              | some (body, rest) =>
                  (otherwise? fuel inLoop rest).map fun (otherwise, rest) =>
                    (.ifElse condition body otherwise, rest)
              | none => none
          | _ => none
      | .word "while" :: rest =>
          match binary? fuel inLoop 0 rest with
          | some (condition, .mark "\x7b" :: rest) =>
              (block? fuel true rest).map fun (body, rest) => (.whileDo condition body, rest)
          | _ => none
      | .word "loop" :: .mark "\x7b" :: rest =>
          (block? fuel true rest).map fun (body, rest) => (.loop body, rest)
      | .word "do" :: .mark "\x7b" :: rest =>
          match block? fuel true rest with
          | some (body, .word w :: rest) =>
              if w = "while" || w = "until" then
                (binary? fuel inLoop 0 rest).map fun (condition, rest) =>
                  (.doWhile body condition (w = "until"), rest)
              else none
          | _ => none
      | .word "for" :: .word name :: .word "in" :: rest =>
          if keywords.contains name then none
          else match binary? fuel inLoop 0 rest with
            | some (items, .mark "\x7b" :: rest) =>
                (block? fuel true rest).map fun (body, rest) => (.forIn name items body, rest)
            | _ => none
      | .word "try" :: .mark "\x7b" :: rest =>
          match block? fuel inLoop rest with
          | some (body, .word "catch" :: .mark "\x7b" :: rest) =>
              (block? fuel inLoop rest).map fun (handler, rest) =>
                (.tryCatch body none handler, rest)
          | some (body, .word "catch" :: .mark "(" :: .word name :: .mark ")" :: .mark "\x7b" :: rest) =>
              (block? fuel inLoop rest).map fun (handler, rest) =>
                (.tryCatch body (some name) handler, rest)
          | _ => none
      | .word name :: .mark "(" :: rest =>
          if keywords.contains name then none
          else (arguments? fuel inLoop rest).map fun (as, rest) => (.call name as, rest)
      | .word name :: rest =>
          if keywords.contains name then none else some (.variable name, rest)
      | _ => none

/-- The value of a statement such as `return`, if it has one. -/
def optional? : Nat → Bool → List Token → Option (Option Expr × List Token)
  | 0, _, _ => none
  | fuel + 1, inLoop, ts =>
      match ts with
      | [] => some (none, [])
      | .mark ";" :: _ => some (none, ts)
      | .mark "\x7d" :: _ => some (none, ts)
      | _ => (binary? fuel inLoop 0 ts).map fun (a, rest) => (some a, rest)

/-- One statement, and whether a semicolon must follow it. -/
def statement? : Nat → Bool → List Token → Option (Stmt × Bool × List Token)
  | 0, _, _ => none
  | fuel + 1, inLoop, ts =>
      let declare (constant : Bool) (name : String) (rest : List Token) :
          Option (Stmt × Bool × List Token) :=
        if keywords.contains name then none
        else match rest with
          | .mark "=" :: rest =>
              (binary? fuel inLoop 0 rest).map fun (a, rest) =>
                (.declare name constant (some a), true, rest)
          | _ => some (.declare name constant none, true, rest)
      match ts with
      | .word "let" :: .word name :: rest => declare false name rest
      | .word "const" :: .word name :: rest => declare true name rest
      | .word "return" :: rest =>
          (optional? fuel inLoop rest).map fun (a, rest) => (.give a, true, rest)
      | .word "throw" :: rest =>
          (optional? fuel inLoop rest).map fun (a, rest) => (.throw a, true, rest)
      | .word "break" :: rest =>
          if inLoop then (optional? fuel inLoop rest).map fun (a, rest) => (.leave a, true, rest)
          else none
      | .word "continue" :: rest => if inLoop then some (.next, true, rest) else none
      | _ =>
          let start : Option (Expr × List Token) :=
            match ts with
            | .mark "\x7b" :: _ => primary? fuel inLoop ts
            | .word w :: _ =>
                if ["if", "while", "loop", "for", "try"].contains w then primary? fuel inLoop ts
                else binary? fuel inLoop 0 ts
            | _ => binary? fuel inLoop 0 ts
          match start with
          | none => none
          | some (a, rest) =>
              if a.endsWithBlock then some (.expr a, false, rest)
              else match assignment? rest with
                | some (op, rest) =>
                    if a.isTarget then
                      (binary? fuel inLoop 0 rest).map fun (b, rest) => (.assign a op b, true, rest)
                    else none
                | none => some (.expr a, true, rest)

/-- Statements up to a closing brace or the end. -/
def statements? : Nat → Bool → List Token → Option (List Stmt × List Token)
  | 0, _, _ => none
  | fuel + 1, inLoop, ts =>
      match ts with
      | [] => some ([], [])
      | .mark "\x7d" :: _ => some ([], ts)
      | .mark ";" :: rest => statements? fuel inLoop rest
      | _ =>
          match statement? fuel inLoop ts with
          | none => none
          | some (s, needsMark, rest) =>
              match rest with
              | [] => some ([s], [])
              | .mark "\x7d" :: _ => some ([s], rest)
              | .mark ";" :: rest =>
                  (statements? fuel inLoop rest).map fun (ss, rest) => (s :: ss, rest)
              | _ =>
                  if needsMark then none
                  else (statements? fuel inLoop rest).map fun (ss, rest) => (s :: ss, rest)

end

/-! ### Scripts -/

/-- The parameters of a function up to and with the closing parenthesis. -/
def parameters? : List Token → Option (List String × List Token)
  | .mark ")" :: rest => some ([], rest)
  | .word name :: .mark ")" :: rest => if keywords.contains name then none else some ([name], rest)
  | .word name :: .mark "," :: rest =>
      if keywords.contains name then none
      else (parameters? rest).map fun (names, rest) => (name :: names, rest)
  | _ => none

/-- No name occurs twice. -/
def distinct : List String → Bool
  | [] => true
  | n :: rest => !rest.contains n && distinct rest

/-- Statements and functions at the top of a script. -/
def top? : Nat → List Token → Program → Option Program
  | 0, _, _ => none
  | fuel + 1, ts, p =>
      match ts with
      | [] => some p
      | .mark ";" :: rest => top? fuel rest p
      | .word "fn" :: .word name :: .mark "(" :: rest =>
          match parameters? rest with
          | some (parameters, .mark "\x7b" :: rest) =>
              let known := p.functions.any fun f =>
                f.name = name && f.parameters.length = parameters.length
              if keywords.contains name || !distinct parameters || known then none
              else match block? fuel false rest with
                | some (body, rest) =>
                    top? fuel rest { p with functions := p.functions ++ [⟨name, parameters, body⟩] }
                | none => none
          | _ => none
      | _ =>
          match statement? fuel false ts with
          | none => none
          | some (s, needsMark, rest) =>
              let p := { p with body := p.body ++ [s] }
              match rest with
              | [] => some p
              | .mark ";" :: rest => top? fuel rest p
              | _ => if needsMark then none else top? fuel rest p

/-- The script that a text writes. -/
def Program.ofText? (text : String) : Option Program :=
  match tokens? (text.length + 1) text.toList with
  | some ts => top? (16 * ts.length + 16) ts ⟨[], []⟩
  | none => none

end VirtualService.Script
