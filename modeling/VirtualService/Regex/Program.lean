/-
  VirtualService/Regex/Program.lean
  =================================
  **Patterns as programs.**

  A program is an array of steps that name the steps after them.  It is built
  from its end: each part of a pattern is compiled to lead to a given step.  A
  fork prefers its first branch, so that the order of the branches carries
  greed and the order of alternatives.
-/
import VirtualService.Regex.Syntax

namespace VirtualService.Regex

/-- One step of a program. -/
inductive Step where
  | accept
  | char (set : CharClass) (next : Nat)
  | look (assertion : Look) (next : Nat)
  | fork (first second : Nat)
deriving Inhabited

/-- A program and the step at which it starts. -/
structure Program where
  steps : Array Step
  start : Nat
deriving Inhabited

namespace Program

/-- Add a step; the program then starts at it. -/
def push (p : Program) (s : Step) : Program := ⟨p.steps.push s, p.steps.size⟩

/-- A fork whose preferred branch is the body if the loop is greedy. -/
def forkOf (greedy : Bool) (body next : Nat) : Step :=
  if greedy then .fork body next else .fork next body

/-- Compile a body a number of times in a row. -/
def times (compile : Program → Program) : Nat → Program → Program
  | 0, p => p
  | n + 1, p => times compile n (compile p)

/-- Compile a body that may be taken up to a number of times; every exit leads to `next`. -/
def upTo (compile : Program → Program) (greedy : Bool) (next : Nat) : Nat → Program → Program
  | 0, p => p
  | n + 1, p =>
      let body := compile p
      upTo compile greedy next n (body.push (forkOf greedy body.start next))

/-- Compile a body that is taken once or more. -/
def plus (compile : Program → Program) (greedy : Bool) (p : Program) : Program :=
  let next := p.start
  let hub := p.steps.size
  let body := compile (p.push .accept)
  ⟨body.steps.setIfInBounds hub (forkOf greedy body.start next), body.start⟩

/-- Compile a body that is taken any number of times. -/
def star (compile : Program → Program) (greedy nullable : Bool) (p : Program) : Program :=
  let next := p.start
  if nullable then
    let body := plus compile greedy p
    body.push (forkOf greedy body.start next)
  else
    let hub := p.steps.size
    let body := compile (p.push .accept)
    ⟨body.steps.setIfInBounds hub (forkOf greedy body.start next), hub⟩

/-- Compile a loop with its bounds. -/
def loop (compile : Program → Program) (least : Nat) (most : Option Nat) (greedy nullable : Bool)
    (p : Program) : Program :=
  match least, most with
  | 0, none => star compile greedy nullable p
  | least + 1, none => times compile least (plus compile greedy p)
  | least, some most => times compile least (upTo compile greedy p.start (most - least) p)

mutual

/-- Add the steps of a pattern in front of a program. -/
def compile : Pattern → Program → Program
  | .empty, p => p
  | .char set, p => p.push (.char set p.start)
  | .look assertion, p => p.push (.look assertion p.start)
  | .sequence parts, p => compileSequence parts p
  | .choice parts, p => compileChoice parts p
  | .loop least most greedy body, p => loop (compile body) least most greedy body.nullable p
  | .group body, p => compile body p

def compileSequence : List Pattern → Program → Program
  | [], p => p
  | part :: parts, p => compile part (compileSequence parts p)

def compileChoice : List Pattern → Program → Program
  | [], p => p
  | [part], p => compile part p
  | part :: parts, p =>
      let others := compileChoice parts p
      let first := compile part ⟨others.steps, p.start⟩
      first.push (.fork first.start others.start)

end

/-- The program of a pattern. -/
def ofPattern (pattern : Pattern) : Program := compile pattern ⟨#[.accept], 0⟩

end Program

end VirtualService.Regex
