/-
  VirtualService/Regex/Syntax.lean
  ================================
  **Patterns as trees.**

  A set of characters is an expression over runs, complements and the set
  operations; whether a character is in it is a structural recursion.  A pattern
  is built from such sets, assertions about a place in the text, sequences,
  ordered choices and repetitions.
-/
import VirtualService.Text.CharSet
import VirtualService.Text.Fold

namespace VirtualService.Regex

/-- An expression for a set of characters. -/
inductive CharClass where
  | runs (set : CharSet)
  | range (first last : Char)
  | union (parts : List CharClass)
  | both (a b : CharClass)
  | minus (a b : CharClass)
  | either (a b : CharClass)
  | complement (a : CharClass)
  /-- The characters that differ in case only from one in the set. -/
  | folded (a : CharClass)
  /-- The same for letters of ASCII alone. -/
  | asciiFolded (a : CharClass)
deriving Repr, Inhabited

namespace CharClass

mutual

/-- Whether a character is in the set. -/
def has : CharClass → Char → Bool
  | .runs set, c => set.has c
  | .range a b, c => a ≤ c && c ≤ b
  | .union parts, c => anyHas parts c
  | .both a b, c => has a c && has b c
  | .minus a b, c => has a c && !has b c
  | .either a b, c => has a c != has b c
  | .complement a, c => !has a c
  | .folded a, c => (Fold.variants c).any fun d => has a d
  | .asciiFolded a, c => has a c || has a c.toLower || has a c.toUpper

def anyHas : List CharClass → Char → Bool
  | [], _ => false
  | part :: parts, c => has part c || anyHas parts c

end

/-- The set of one character. -/
def single (c : Char) : CharClass := .range c c

mutual

/-- About how many runs of code points a set takes up. -/
def breadth : CharClass → Nat
  | .runs set => set.runs.size
  | .range _ _ => 1
  | .union parts => breadthAll parts
  | .both a b => max (breadth a) (breadth b)
  | .minus a b => breadth a + breadth b
  | .either a b => breadth a + breadth b
  | .complement a => breadth a + 1
  | .folded a => breadth a
  | .asciiFolded a => breadth a

def breadthAll : List CharClass → Nat
  | [] => 0
  | part :: parts => breadth part + breadthAll parts

end

end CharClass

/-- Where a place may stand to the words of a text. -/
inductive WordEdge where
  | edge
  | noEdge
  | start
  | stop
  | startHalf
  | stopHalf
deriving DecidableEq, Repr, Inhabited

/-- An assertion about a place in the text; words are of letters of any script or of ASCII alone. -/
inductive Look where
  | textStart
  | textEnd
  | lineStart
  | lineEnd
  | crlfStart
  | crlfEnd
  | word (kind : WordEdge) (ascii : Bool)
deriving DecidableEq, Repr, Inhabited

/-- A pattern. -/
inductive Pattern where
  | empty
  | char (set : CharClass)
  | look (assertion : Look)
  | sequence (parts : List Pattern)
  | choice (parts : List Pattern)
  | loop (least : Nat) (most : Option Nat) (greedy : Bool) (body : Pattern)
  | group (body : Pattern)
deriving Repr, Inhabited

namespace Pattern

mutual

/-- The pattern can match the empty text. -/
def nullable : Pattern → Bool
  | .empty => true
  | .char _ => false
  | .look _ => true
  | .sequence parts => allNullable parts
  | .choice parts => anyNullable parts
  | .loop least _ _ body => least = 0 || nullable body
  | .group body => nullable body

def allNullable : List Pattern → Bool
  | [] => true
  | p :: ps => nullable p && allNullable ps

def anyNullable : List Pattern → Bool
  | [] => false
  | p :: ps => nullable p || anyNullable ps

end

mutual

/-- About how many bytes a program for the pattern takes, each repetition written out. -/
def cost : Pattern → Nat
  | .empty => 0
  | .char set => 32 + 16 * (set.breadth - 1)
  | .look _ => 32
  | .sequence parts => costAll parts
  | .choice parts => 32 + costAll parts
  | .loop least most _ body =>
      match most with
      | none => 64 + max least 1 * cost body
      | some most => most * cost body + (most - least) * 32
  | .group body => 64 + cost body

def costAll : List Pattern → Nat
  | [] => 0
  | p :: ps => cost p + costAll ps

end

mutual

/-- How deep the parts of the pattern nest. -/
def depth : Pattern → Nat
  | .empty => 0
  | .char _ => 0
  | .look _ => 0
  | .sequence parts => 1 + depthAll parts
  | .choice parts => 1 + depthAll parts
  | .loop _ _ _ body => 1 + depth body
  | .group body => 1 + depth body

def depthAll : List Pattern → Nat
  | [] => 0
  | p :: ps => max (depth p) (depthAll ps)

end

end Pattern

end VirtualService.Regex
