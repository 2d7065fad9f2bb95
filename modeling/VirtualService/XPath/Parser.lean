/-
  VirtualService/XPath/Parser.lean
  ================================
  **Reading XPath expressions.**

  Operators bind in seven levels, unary minus and union most tightly.  A path may
  start at the root, at the current node or at the nodes of an expression; two
  slashes stand for a step through all descendants.
-/
import VirtualService.XPath.Token

namespace VirtualService.XPath

/-! ### Pieces -/

/-- How tightly an operator binds. -/
def Operator.level : Operator → Nat
  | .or => 0
  | .and => 1
  | .equal => 2
  | .unequal => 2
  | .less => 3
  | .atMost => 3
  | .greater => 3
  | .atLeast => 3
  | .add => 4
  | .subtract => 4
  | .multiply => 5
  | .divide => 5
  | .modulo => 5
  | .union => 7

/-- The kinds of nodes that look like a call. -/
def nodeKinds : List String := ["comment", "text", "processing-instruction", "node"]

/-- The step that two slashes stand for. -/
def everywhere : PathStep := .mk .descendantOrSelf .any []

/-- The tokens begin a step. -/
def beginsStep : List Token → Bool
  | .name _ _ :: _ => true
  | .star :: _ => true
  | .starIn _ :: _ => true
  | .at :: _ => true
  | .dot :: _ => true
  | .dots :: _ => true
  | _ => false

/-- A node test. -/
def nodeTest? (ts : List Token) : Option (NodeTest × List Token) :=
  match ts with
  | .name none kind :: .openParen :: rest =>
      match kind, rest with
      | "comment", .closeParen :: rest => some (.comment, rest)
      | "text", .closeParen :: rest => some (.text, rest)
      | "node", .closeParen :: rest => some (.any, rest)
      | "processing-instruction", .closeParen :: rest => some (.instruction none, rest)
      | "processing-instruction", .text target :: .closeParen :: rest =>
          some (.instruction (some target), rest)
      | _, _ => none
  | .name qualifier localPart :: rest => some (.name qualifier localPart, rest)
  | .star :: rest => some (.anyName, rest)
  | .starIn qualifier :: rest => some (.anyNameIn qualifier, rest)
  | _ => none

/-- The axis and the test of a step. -/
def stepHead? (ts : List Token) : Option (Axis × NodeTest × List Token) :=
  match ts with
  | .dot :: rest => some (.self, .any, rest)
  | .dots :: rest => some (.parent, .any, rest)
  | .at :: rest => (nodeTest? rest).map fun (test, rest) => (.attribute, test, rest)
  | .name none axis :: .colons :: rest =>
      match Axis.ofName? axis with
      | some axis => (nodeTest? rest).map fun (test, rest) => (axis, test, rest)
      | none => none
  | _ => (nodeTest? ts).map fun (test, rest) => (.child, test, rest)

/-- The tokens begin an expression of their own and no path from the current node. -/
def beginsPrimary : List Token → Bool
  | .variable :: _ => true
  | .openParen :: _ => true
  | .text _ :: _ => true
  | .number _ :: _ => true
  | .name none word :: .openParen :: _ => !nodeKinds.contains word
  | .name (some _) _ :: .openParen :: _ => true
  | _ => false

/-! ### Expressions -/

mutual

/-- An expression of operators that bind at least as tightly as a level. -/
def binary? : Nat → Nat → List Token → Option (Expr × List Token)
  | 0, _, _ => none
  | fuel + 1, level, ts =>
      match unary? fuel level ts with
      | some (a, rest) => operators? fuel level a rest
      | none => none

/-- The operators after an operand, as far as they bind tightly enough. -/
def operators? : Nat → Nat → Expr → List Token → Option (Expr × List Token)
  | 0, _, _, _ => none
  | fuel + 1, level, a, ts =>
      match ts with
      | .operator op :: rest =>
          if op.level < level then some (a, ts)
          else match binary? fuel (op.level + 1) rest with
            | some (b, rest) => operators? fuel level (.binary op a b) rest
            | none => none
      | _ => some (a, ts)

/-- An operand: minus signs bind more loosely than union and more tightly than the rest. -/
def unary? : Nat → Nat → List Token → Option (Expr × List Token)
  | 0, _, _ => none
  | fuel + 1, level, ts =>
      match ts with
      | .operator .subtract :: rest =>
          if level > 6 then none
          else (binary? fuel 6 rest).map fun (a, rest) => (.negate a, rest)
      | _ => pathExpr? fuel ts

/-- A path. -/
def pathExpr? : Nat → List Token → Option (Expr × List Token)
  | 0, _ => none
  | fuel + 1, ts =>
      match ts with
      | .slashes :: rest =>
          (steps? fuel rest).map fun (steps, rest) => (.path .root (everywhere :: steps), rest)
      | .slash :: rest =>
          if beginsStep rest then
            (steps? fuel rest).map fun (steps, rest) => (.path .root steps, rest)
          else some (.root, rest)
      | _ =>
          if beginsPrimary ts then
            match primary? fuel ts with
            | none => none
            | some (a, rest) =>
                match filters? fuel a rest with
                | none => none
                | some (a, .slash :: rest) =>
                    (steps? fuel rest).map fun (steps, rest) => (.path a steps, rest)
                | some (a, .slashes :: rest) =>
                    (steps? fuel rest).map fun (steps, rest) => (.path a (everywhere :: steps), rest)
                | some (a, rest) => some (a, rest)
          else (steps? fuel ts).map fun (steps, rest) => (.path .current steps, rest)

/-- Steps with slashes between them. -/
def steps? : Nat → List Token → Option (List PathStep × List Token)
  | 0, _ => none
  | fuel + 1, ts =>
      match stepHead? ts with
      | none => none
      | some (axis, test, rest) =>
          match predicates? fuel rest with
          | none => none
          | some (predicates, rest) =>
              let step := PathStep.mk axis test predicates
              match rest with
              | .slash :: rest => (steps? fuel rest).map fun (steps, rest) => (step :: steps, rest)
              | .slashes :: rest =>
                  (steps? fuel rest).map fun (steps, rest) => (step :: everywhere :: steps, rest)
              | _ => some ([step], rest)

/-- Predicates in brackets. -/
def predicates? : Nat → List Token → Option (List Expr × List Token)
  | 0, _ => none
  | fuel + 1, ts =>
      match ts with
      | .openBracket :: rest =>
          match binary? fuel 0 rest with
          | some (p, .closeBracket :: rest) =>
              (predicates? fuel rest).map fun (ps, rest) => (p :: ps, rest)
          | _ => none
      | _ => some ([], ts)

/-- Predicates on the nodes of an expression. -/
def filters? : Nat → Expr → List Token → Option (Expr × List Token)
  | 0, _, _ => none
  | fuel + 1, a, ts =>
      match ts with
      | .openBracket :: rest =>
          match binary? fuel 0 rest with
          | some (p, .closeBracket :: rest) => filters? fuel (.filter a p) rest
          | _ => none
      | _ => some (a, ts)

/-- A literal, a variable, a call or an expression in parentheses. -/
def primary? : Nat → List Token → Option (Expr × List Token)
  | 0, _ => none
  | fuel + 1, ts =>
      match ts with
      | .variable :: rest => some (.variable, rest)
      | .text s :: rest => some (.text s, rest)
      | .number x :: rest => some (.number x, rest)
      | .openParen :: rest =>
          match binary? fuel 0 rest with
          | some (a, .closeParen :: rest) => some (a, rest)
          | _ => none
      | .name qualifier word :: .openParen :: rest =>
          let function := match qualifier with
            | some q => q ++ ":" ++ word
            | none => word
          match rest with
          | .closeParen :: rest => some (.call function [], rest)
          | _ => (arguments? fuel rest).map fun (as, rest) => (.call function as, rest)
      | _ => none

/-- Arguments up to and with the closing parenthesis. -/
def arguments? : Nat → List Token → Option (List Expr × List Token)
  | 0, _ => none
  | fuel + 1, ts =>
      match binary? fuel 0 ts with
      | some (a, .closeParen :: rest) => some ([a], rest)
      | some (a, .comma :: rest) => (arguments? fuel rest).map fun (as, rest) => (a :: as, rest)
      | _ => none

end

/-- What a selector text writes. -/
inductive Reading where
  | malformed
  | empty
  | expr (e : Expr)

/-- Read a selector; the empty text has a verdict of its own. -/
def Reading.ofText (text : String) : Reading :=
  if text.isEmpty then .empty
  else
    match tokens? (text.length + 1) false text.toList with
    | none => .malformed
    | some ts =>
        match binary? (10 * ts.length + 20) 0 ts with
        | some (e, []) => .expr e
        | _ => .malformed

end VirtualService.XPath
