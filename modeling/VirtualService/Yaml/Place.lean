/-
  VirtualService/Yaml/Place.lean
  ==============================
  **A place in a YAML text.**

  Blocks of YAML are told apart by the columns in which they begin, so a place
  carries its line and column beside the characters that follow.
-/

namespace VirtualService.Yaml

/-- The characters from a place on, and where the place is. -/
structure Place where
  rest : List Char
  index : Nat
  line : Nat
  column : Nat
deriving Repr, Inhabited

/-! ### Characters -/

/-- Spaces and tabs. -/
def isSpace (c : Char) : Bool := c = ' ' || c = '\t'

/-- What ends a line. -/
def isBreak (c : Char) : Bool :=
  c = '\n' || c = '\r' || c = '\u0085' || c = '\u2028' || c = '\u2029'

/-- Characters of names of anchors and tags. -/
def isNameChar (c : Char) : Bool := c.isAlphanum || c = '_' || c = '-'

/-- Characters that a text may hold. -/
def isAllowed (c : Char) : Bool :=
  c = '\t' || c = '\n' || c = '\r' || (' ' ≤ c && c ≤ '~') || c = '\u0085' ||
    ('\u00a0' ≤ c && c ≤ '\ufffd' && c != '\ufeff') || 0x10000 ≤ c.toNat

/-- The characters end here, or a blank or a line end comes first. -/
def endsWord (cs : List Char) : Bool :=
  match cs with
  | [] => true
  | c :: _ => isSpace c || isBreak c

/-- The characters end here, or a line end comes first. -/
def endsLine (cs : List Char) : Bool :=
  match cs with
  | [] => true
  | c :: _ => isBreak c

/-- A document begins or ends here: three marks alone at the beginning of a line. -/
def isDocumentMark (cs : List Char) : Bool :=
  match cs with
  | a :: b :: c :: rest => (a = '-' || a = '.') && a = b && b = c && endsWord rest
  | _ => false

namespace Place

def start (cs : List Char) : Place := ⟨cs, 0, 0, 0⟩

/-- The place after a number of characters of this line. -/
def skip (p : Place) (n : Nat) : Place :=
  { p with rest := p.rest.drop n, index := p.index + n, column := p.column + n }

/-- The beginning of the next line, and the line end as it counts within a scalar. -/
def nextLine (p : Place) : Char × Place :=
  match p.rest with
  | '\r' :: '\n' :: rest => ('\n', ⟨rest, p.index + 2, p.line + 1, 0⟩)
  | c :: rest =>
      (if c = '\u2028' || c = '\u2029' then c else '\n', ⟨rest, p.index + 1, p.line + 1, 0⟩)
  | [] => ('\n', p)

/-- The place after the characters of this line that satisfy a test. -/
def skipWhile (p : Place) (test : Char → Bool) : Place :=
  p.skip (p.rest.takeWhile test).length

/-- A document begins or ends at this place. -/
def atDocumentMark (p : Place) : Bool := p.column == 0 && isDocumentMark p.rest

end Place

end VirtualService.Yaml
