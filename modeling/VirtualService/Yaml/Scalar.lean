/-
  VirtualService/Yaml/Scalar.lean
  ===============================
  **Scalars of YAML.**

  A scalar is written plain, in quotes, or as a block of lines.  Single line ends
  within it are folded into a space and further ones are kept, except in a literal
  block, which keeps all of them.
-/
import VirtualService.Number.Digits
import VirtualService.Yaml.Place

namespace VirtualService.Yaml

/-! ### Folding -/

/-- Blanks and line ends between two parts of a scalar. -/
structure Gap where
  blanks : List Char
  first : Option Char
  further : List Char

/-- The gap at a place.  Tabs may not stand before column `indent` of a line if `strict`. -/
def gap? (strict : Bool) (indent : Nat) : Nat → Place → Gap → Option (Gap × Place)
  | 0, p, g => some (g, p)
  | fuel + 1, p, g =>
      match p.rest with
      | [] => some (g, p)
      | c :: _ =>
          if isSpace c then
            if g.first.isSome then
              if strict && c = '\t' && p.column < indent then none
              else gap? strict indent fuel (p.skip 1) g
            else gap? strict indent fuel (p.skip 1) { g with blanks := g.blanks ++ [c] }
          else if isBreak c then
            let (mark, p) := p.nextLine
            match g.first with
            | none => gap? strict indent fuel p { g with blanks := [], first := some mark }
            | some _ => gap? strict indent fuel p { g with further := g.further ++ [mark] }
          else some (g, p)

/-- What a gap leaves in the scalar. -/
def Gap.folded (g : Gap) : List Char :=
  match g.first with
  | none => g.blanks
  | some '\n' => if g.further.isEmpty then [' '] else g.further
  | some mark => mark :: g.further

/-! ### Quotes -/

/-- The character of a code of hexadecimal digits. -/
def escapeCode? (digits : List Char) : Option Char :=
  match digits.mapM Digits.hex? with
  | none => none
  | some values =>
      let code := values.foldl (fun n d => n * 16 + d) 0
      if code < 0xd800 || (0xdfff < code && code ≤ 0x10ffff) then some (Char.ofNat code) else none

/-- The escape after a backslash: the character, and how many characters it takes. -/
def escape? (cs : List Char) : Option (Char × Nat) :=
  let code (n : Nat) (digits : List Char) : Option (Char × Nat) :=
    if (digits.take n).length = n then (escapeCode? (digits.take n)).map fun c => (c, n + 1)
    else none
  match cs with
  | [] => none
  | 'x' :: rest => code 2 rest
  | 'u' :: rest => code 4 rest
  | 'U' :: rest => code 8 rest
  | c :: _ => (plain c).map fun c => (c, 1)
where
  plain : Char → Option Char
    | '0' => some '\x00'
    | 'a' => some '\x07'
    | 'b' => some '\x08'
    | 't' => some '\t'
    | '\t' => some '\t'
    | 'n' => some '\n'
    | 'v' => some '\x0b'
    | 'f' => some '\x0c'
    | 'r' => some '\r'
    | 'e' => some '\x1b'
    | ' ' => some ' '
    | '"' => some '"'
    | '/' => some '/'
    | '\\' => some '\\'
    | 'N' => some '\u0085'
    | '_' => some '\u00a0'
    | 'L' => some '\u2028'
    | 'P' => some '\u2029'
    | _ => none

/-- The text up to the closing quote, and the place after it. -/
def quoted? (single : Bool) : Nat → Place → List Char → Option (List Char × Place)
  | 0, _, _ => none
  | fuel + 1, p, text =>
      if p.atDocumentMark then none
      else match p.rest with
        | [] => none
        | '\'' :: '\'' :: _ =>
            if single then quoted? single fuel (p.skip 2) (text ++ ['\''])
            else quoted? single fuel (p.skip 1) (text ++ ['\''])
        | '\\' :: c :: rest =>
            if single then quoted? single fuel (p.skip 1) (text ++ ['\\'])
            else if isBreak c then
              let after := (p.skip 1).nextLine.2
              match gap? false 0 (rest.length + 1) after ⟨[], some '\u2028', []⟩ with
              | some (g, after) => quoted? single fuel after (text ++ g.further)
              | none => none
            else match escape? (c :: rest) with
              | some (e, n) => quoted? single fuel (p.skip (n + 1)) (text ++ [e])
              | none => none
        | c :: rest =>
            if c = (if single then '\'' else '"') then some (text, p.skip 1)
            else if isSpace c || isBreak c then
              match gap? false 0 (rest.length + 2) p ⟨[], none, []⟩ with
              | some (g, after) => quoted? single fuel after (text ++ g.folded)
              | none => none
            else quoted? single fuel (p.skip 1) (text ++ [c])

/-! ### Plain scalars -/

/-- A plain scalar ends before these characters. -/
def endsPlain (flow : Bool) (cs : List Char) : Bool :=
  match cs with
  | [] => true
  | ':' :: rest => endsWord rest
  | c :: _ => flow && (c = ',' || c = '[' || c = ']' || c = '{' || c = '}')

/-- A colon that no plain scalar may hold within brackets. -/
def isStrayColon (flow : Bool) (cs : List Char) : Bool :=
  match cs with
  | ':' :: c :: _ =>
      flow && (c = ',' || c = '?' || c = '[' || c = ']' || c = '{' || c = '}')
  | _ => false

/-- One word of a plain scalar: its characters, and the place after it. -/
def plainWord? (flow : Bool) : Nat → Place → List Char → Option (List Char × Place)
  | 0, p, word => some (word, p)
  | fuel + 1, p, word =>
      if isStrayColon flow p.rest then none
      else if endsWord p.rest || endsPlain flow p.rest then some (word, p)
      else plainWord? flow fuel (p.skip 1) (word ++ p.rest.take 1)

/-- A plain scalar, whose further lines stand at column `indent` or after it: its text, the place
    after it, and whether a line has ended before that place. -/
def plain? (flow : Bool) (indent : Nat) :
    Nat → Place → List Char → List Char → Bool → Option (List Char × Place × Bool)
  | 0, _, _, _, _ => none
  | fuel + 1, p, text, before, ended =>
      if p.atDocumentMark || p.rest.head? == some '#' then some (text, p, ended)
      else match plainWord? flow (p.rest.length + 1) p [] with
        | none => none
        | some (word, after) =>
            let text := if word.isEmpty then text else text ++ before ++ word
            let ended := ended && word.isEmpty
            match after.rest with
            | [] => some (text, after, ended)
            | c :: rest =>
                if !(isSpace c || isBreak c) then some (text, after, ended)
                else
                  match gap? true indent (rest.length + 2) after ⟨[], none, []⟩ with
                  | none => none
                  | some (g, next) =>
                      let ended := ended || g.first.isSome
                      if !flow && g.first.isSome && next.column < indent then
                        some (text, next, ended)
                      else plain? flow indent fuel next text g.folded ended

/-! ### Blocks of lines -/

/-- What is said at the head of a block: what becomes of the line ends after it (`some true` keeps
    all, `some false` none), and its indentation. -/
def blockHead? (p : Place) : Option (Option Bool × Option Nat × Place) :=
  let chomp (c : Char) : Option Bool :=
    if c = '+' then some true else if c = '-' then some false else none
  let digit (c : Char) : Option Nat :=
    match Digits.decimal? c with
    | some d => if d = 0 then none else some d
    | none => none
  match p.rest with
  | a :: b :: _ =>
      match chomp a, digit b, digit a, chomp b with
      | some keep, some n, _, _ => some (some keep, some n, p.skip 2)
      | some keep, none, _, _ => if b = '0' then none else some (some keep, none, p.skip 1)
      | none, _, some n, some keep => some (some keep, some n, p.skip 2)
      | none, _, some n, none => some (none, some n, p.skip 1)
      | none, _, none, _ => if a = '0' then none else some (none, none, p)
  | [a] =>
      match chomp a, digit a with
      | some keep, _ => some (some keep, none, p.skip 1)
      | none, some n => some (none, some n, p.skip 1)
      | none, none => if a = '0' then none else some (none, none, p)
  | [] => some (none, none, p)

/-- The empty lines at a place: their line ends, the place of the first line that is not empty, and
    the greatest column reached.  Without a known indentation all leading spaces are skipped. -/
def emptyLines? (indent : Option Nat) :
    Nat → Place → List Char → Nat → Option (List Char × Place × Nat)
  | 0, _, _, _ => none
  | fuel + 1, p, breaks, widest =>
      let spaces := (p.rest.takeWhile (· = ' ')).length
      let p := match indent with
        | none => p.skip spaces
        | some n => p.skip (min spaces (n - p.column))
      let widest := max widest p.column
      match p.rest with
      | [] => some (breaks, p, widest)
      | c :: _ =>
          if c = '\t' && indent.all (fun n => p.column < n) then none
          else if isBreak c then
            let (mark, p) := p.nextLine
            emptyLines? indent fuel p (breaks ++ [mark]) widest
          else some (breaks, p, widest)

/-- The lines of a block at a known indentation: the text without its last line end, that line end,
    and the empty lines after it. -/
def blockLines? (literal : Bool) (indent : Nat) :
    Nat → Place → List Char → List Char → List Char → Bool →
      Option (List Char × List Char × List Char × Place)
  | 0, _, _, _, _, _ => none
  | fuel + 1, p, text, last, empty, blankBefore =>
      if p.column != indent || p.rest.isEmpty then some (text, last, empty, p)
      else
        let blankHere := match p.rest with
          | c :: _ => isSpace c
          | [] => false
        let joint :=
          if !literal && last == ['\n'] && !blankBefore && !blankHere then
            if empty.isEmpty then [' '] else empty
          else last ++ empty
        let line := p.rest.takeWhile fun c => !isBreak c
        let after := p.skip line.length
        let (last, next) := match after.rest with
          | [] => ([], after)
          | _ :: _ => ([after.nextLine.1], after.nextLine.2)
        match emptyLines? (some indent) (next.rest.length + 1) next [] 0 with
        | none => none
        | some (empty, next, _) =>
            blockLines? literal indent fuel next (text ++ joint ++ line) last empty blankHere

/-- A block of lines after its mark, within a block that stands at column `parent`. -/
def block? (literal : Bool) (parent : Int) (p : Place) : Option (List Char × Place) := do
  let (keep, increment, p) ← blockHead? p
  let p := p.skipWhile isSpace
  let p := if p.rest.head? == some '#' then p.skipWhile fun c => !isBreak c else p
  if !endsLine p.rest then none
  else
    let p := if p.rest.isEmpty then p else p.nextLine.2
    let known := increment.map fun n => if 0 ≤ parent then parent.toNat + n else n
    let (empty, p, widest) ← emptyLines? known (p.rest.length + 1) p [] 0
    let indent := known.getD (max widest (max (parent + 1).toNat 1))
    let (text, last, empty, p) ← blockLines? literal indent (p.rest.length + 1) p [] [] empty false
    return (text ++ (if keep == some false then [] else last) ++
      (if keep == some true then empty else []), p)

end VirtualService.Yaml
