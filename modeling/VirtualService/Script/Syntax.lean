/-
  VirtualService/Script/Syntax.lean
  =================================
  **Scripts as trees.**

  A script is a list of statements and the functions it defines.  Blocks,
  conditions and loops are expressions as well as statements; a block has the
  value of its last statement.  The language is a fixed part of the one that the
  service runs: it has no `switch`, no closures and no modules.
-/
import VirtualService.Script.Value

namespace VirtualService.Script

inductive BinaryOp where
  | add
  | subtract
  | multiply
  | divide
  | modulo
  | power
  | shiftLeft
  | shiftRight
  | bitAnd
  | bitOr
  | bitXor
  | equal
  | unequal
  | less
  | atMost
  | greater
  | atLeast
  | within
  | notWithin
deriving DecidableEq, Repr, Inhabited

inductive UnaryOp where
  | not
  | negate
  | plus
deriving DecidableEq, Repr, Inhabited

mutual

inductive Expr where
  | literal (value : Value)
  | variable (name : String)
  | array (items : List Expr)
  | map (members : List (String × Expr))
  | range (start stop : Expr) (inclusive : Bool)
  | unary (op : UnaryOp) (a : Expr)
  | binary (op : BinaryOp) (a b : Expr)
  | and (a b : Expr)
  | or (a b : Expr)
  | orElse (a b : Expr)
  | index (a i : Expr)
  | member (a : Expr) (name : String)
  | call (function : String) (arguments : List Expr)
  | method (a : Expr) (function : String) (arguments : List Expr)
  | block (body : List Stmt)
  | ifElse (condition : Expr) (body : List Stmt) (otherwise : List Stmt)
  | whileDo (condition : Expr) (body : List Stmt)
  | doWhile (body : List Stmt) (condition : Expr) (negated : Bool)
  | loop (body : List Stmt)
  | forIn (name : String) (items : Expr) (body : List Stmt)
  | tryCatch (body : List Stmt) (name : Option String) (handler : List Stmt)

inductive Stmt where
  | expr (e : Expr)
  | declare (name : String) (constant : Bool) (value : Option Expr)
  | assign (target : Expr) (op : Option BinaryOp) (value : Expr)
  | give (value : Option Expr)
  | leave (value : Option Expr)
  | next
  | throw (value : Option Expr)

end

instance : Inhabited Expr := ⟨.literal .unit⟩

/-- A function of a script. -/
structure Function where
  name : String
  parameters : List String
  body : List Stmt

/-- A script that has been read. -/
structure Program where
  body : List Stmt
  functions : List Function

instance : Inhabited Program := ⟨⟨[], []⟩⟩

end VirtualService.Script
