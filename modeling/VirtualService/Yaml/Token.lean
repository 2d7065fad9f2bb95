/-
  VirtualService/Yaml/Token.lean
  ==============================
  **The marks and scalars of a YAML text.**

  Blocks have no brackets in the text; their beginnings and ends are put in from
  the columns.  A scalar or collection turns out to be a key only at the colon
  after it, so every place where a key may have begun is remembered, and the marks
  before the key are put in there.
-/
import VirtualService.Yaml.Scalar

namespace VirtualService.Yaml

inductive Token where
  | version (major minor : List Char)
  | tagHandle (handle stem : String)
  | documentStart
  | documentEnd
  | blockSequenceStart
  | blockMappingStart
  | blockEnd
  | flowSequenceStart
  | flowSequenceEnd
  | flowMappingStart
  | flowMappingEnd
  | blockEntry
  | flowEntry
  | key
  | value
  | alias (name : String)
  | anchor (name : String)
  | tag (handle suffix : String)
  | scalar (text : String) (plain : Bool)
deriving DecidableEq, Repr, Inhabited

/-- A place where a key may have begun. -/
structure KeyStart where
  /-- Nothing but a key can stand there. -/
  required : Bool
  /-- The number of tokens before it. -/
  number : Nat
  place : Place

/-- How far the tokens of a text have been read. -/
structure Reader where
  place : Place
  tokens : Array Token
  /-- How many brackets are open. -/
  flow : Nat
  /-- The column of the innermost block, and of those around it; -1 outside of blocks. -/
  indent : Int
  outer : List Int
  /-- A key may begin here. -/
  keyAllowed : Bool
  /-- Where a key may have begun within the innermost brackets, and around each of the brackets. -/
  keyStart : Option KeyStart
  outerStarts : List (Option KeyStart)

namespace Reader

def start (cs : List Char) : Reader :=
  { place := Place.start cs, tokens := #[], flow := 0, indent := -1, outer := []
    keyAllowed := true, keyStart := none, outerStarts := [] }

def push (r : Reader) (t : Token) : Reader := { r with tokens := r.tokens.push t }

/-- Move past some characters and add a token. -/
def take (r : Reader) (n : Nat) (t : Token) : Reader :=
  { r with place := r.place.skip n, tokens := r.tokens.push t }

/-! ### Blanks and blocks -/

/-- Move to the next token.  A tab may not stand where a key of a block may begin. -/
def skipBlanks : Nat → Reader → Reader
  | 0, r => r
  | fuel + 1, r =>
      let tabs := r.flow > 0 || !r.keyAllowed
      let place := r.place.skipWhile fun c => c = ' ' || (tabs && c = '\t')
      let place :=
        if place.rest.head? == some '#' then place.skipWhile fun c => !isBreak c else place
      match place.rest with
      | c :: _ =>
          if isBreak c then
            skipBlanks fuel
              { r with place := place.nextLine.2, keyAllowed := r.keyAllowed || r.flow == 0 }
          else { r with place := place }
      | [] => { r with place := place }

/-- Close the blocks that stand to the right of a column. -/
def closeBlocks (column : Int) : List Int → Reader → Reader
  | outer, r =>
      if r.flow > 0 || r.indent ≤ column then { r with outer := outer }
      else match outer with
        | next :: outer => closeBlocks column outer ({ r with indent := next }.push .blockEnd)
        | [] => { r with outer := [] }

/-- Open a block at a column to the right of the innermost one; its mark goes before the token of a
    number. -/
def openBlock (r : Reader) (column : Nat) (number : Nat) (t : Token) : Reader :=
  if r.flow > 0 || (column : Int) ≤ r.indent then r
  else { r with
    outer := r.indent :: r.outer
    indent := column
    tokens := r.tokens.insertIdx! (min number r.tokens.size) t }

/-! ### Keys -/

/-- Give up the place where a key may have begun; a key that is required must not be given up. -/
def dropKey (r : Reader) : Option Reader :=
  match r.keyStart with
  | some k => if k.required then none else some { r with keyStart := none }
  | none => some r

/-- Remember that a key may begin here. -/
def saveKey (r : Reader) : Option Reader :=
  if r.keyAllowed then do
    let r ← r.dropKey
    let required := r.flow == 0 && r.indent == (r.place.column : Int)
    return { r with keyStart := some ⟨required, r.tokens.size, r.place⟩ }
  else some r

/-- A key does not reach beyond its line, nor beyond 1024 characters. -/
def isStale (r : Reader) (k : KeyStart) : Bool :=
  k.place.line < r.place.line || k.place.index + 1024 < r.place.index

/-- Give up the places whose key would reach too far. -/
def dropStale (r : Reader) : Option Reader := do
  let fresh (k : Option KeyStart) : Option (Option KeyStart) :=
    match k with
    | some k => if r.isStale k then (if k.required then none else some none) else some (some k)
    | none => some none
  let keyStart ← fresh r.keyStart
  let outerStarts ← r.outerStarts.mapM fresh
  return { r with keyStart := keyStart, outerStarts := outerStarts }

/-! ### Marks -/

def openFlow (r : Reader) (t : Token) : Option Reader := do
  let r ← r.saveKey
  return { r.take 1 t with
    flow := r.flow + 1
    outerStarts := r.keyStart :: r.outerStarts
    keyStart := none
    keyAllowed := true }

def closeFlow (r : Reader) (t : Token) : Option Reader := do
  let r ← r.dropKey
  let r := match r.outerStarts with
    | k :: ks => { r with flow := r.flow - 1, keyStart := k, outerStarts := ks }
    | [] => r
  return { r.take 1 t with keyAllowed := false }

def flowEntry (r : Reader) : Option Reader := do
  let r ← r.dropKey
  return { r.take 1 .flowEntry with keyAllowed := true }

def blockEntry (r : Reader) : Option Reader := do
  if r.flow == 0 && !r.keyAllowed then none
  else
    let r := r.openBlock r.place.column r.tokens.size .blockSequenceStart
    let r ← r.dropKey
    return { r.take 1 .blockEntry with keyAllowed := true }

def explicitKey (r : Reader) : Option Reader := do
  if r.flow == 0 && !r.keyAllowed then none
  else
    let r := r.openBlock r.place.column r.tokens.size .blockMappingStart
    let r ← r.dropKey
    return { r.take 1 .key with keyAllowed := r.flow == 0 }

def valueMark (r : Reader) : Option Reader :=
  match r.keyStart with
  | some k =>
      let r := { r with
        tokens := r.tokens.insertIdx! (min k.number r.tokens.size) .key, keyStart := none }
      let r := r.openBlock k.place.column k.number .blockMappingStart
      some { r.take 1 .value with keyAllowed := false }
  | none =>
      if r.flow == 0 && !r.keyAllowed then none
      else
        let r := r.openBlock r.place.column r.tokens.size .blockMappingStart
        some { r.take 1 .value with keyAllowed := r.flow == 0 }

/-! ### Names -/

/-- An anchor or an alias after its mark. -/
def name? (r : Reader) (make : String → Token) : Option Reader := do
  let r ← r.saveKey
  let name := (r.place.rest.drop 1).takeWhile isNameChar
  let after := r.place.skip (name.length + 1)
  let ended := endsWord after.rest || match after.rest with
    | c :: _ => "?:,]\x7d%@`".toList.contains c
    | [] => true
  if name.isEmpty || !ended then none
  else
    return { r with
      place := after, tokens := r.tokens.push (make (String.ofList name)), keyAllowed := false }

/-- Characters of the suffix of a tag. -/
def isTagChar (verbatim : Bool) (c : Char) : Bool :=
  isNameChar c || ";/?:@&=+$.!~*'()%".toList.contains c || (verbatim && ",[]".toList.contains c)

/-- Characters of a tag, with those written as hexadecimal digits after a percent sign. -/
def tagText? : List Char → Option (List Char)
  | [] => some []
  | '%' :: a :: b :: rest =>
      match Digits.hex? a, Digits.hex? b with
      | some x, some y =>
          if x < 8 then (tagText? rest).map fun cs => Char.ofNat (x * 16 + y) :: cs else none
      | _, _ => none
  | '%' :: _ => none
  | c :: rest => (tagText? rest).map fun cs => c :: cs

def tag? (r : Reader) : Option Reader := do
  let r ← r.saveKey
  let cs := r.place.rest.drop 1
  let (handle, suffix, length) ← match cs with
    | '<' :: rest =>
        let uri := rest.takeWhile (isTagChar true)
        if uri.isEmpty || (rest.drop uri.length).head? != some '>' then none
        else some ([], uri, uri.length + 3)
    | _ =>
        let name := cs.takeWhile isNameChar
        let rest := cs.drop name.length
        match rest with
        | '!' :: rest =>
            let uri := rest.takeWhile (isTagChar false)
            if uri.isEmpty then none
            else some ('!' :: name ++ ['!'], uri, name.length + 2 + uri.length)
        | _ =>
            let uri := cs.takeWhile (isTagChar false)
            if uri.isEmpty then some ([], ['!'], 1) else some (['!'], uri, uri.length + 1)
  let suffix ← tagText? suffix
  let after := r.place.skip length
  if endsWord after.rest || (r.flow > 0 && after.rest.head? == some ',') then
    return { r with
      place := after
      tokens := r.tokens.push (.tag (String.ofList handle) (String.ofList suffix))
      keyAllowed := false }
  else none

/-- A directive: the version of the language, or the stem of a handle of tags. -/
def directive? (r : Reader) : Option Reader := do
  let r := closeBlocks (-1) r.outer r
  let r ← r.dropKey
  let line := r.place.rest.takeWhile fun c => !isBreak c
  let after := r.place.skip line.length
  let words := ((line.drop 1).map fun c => if c = '\t' then ' ' else c)
  let parts := (words.splitBy fun a b => (a = ' ') == (b = ' ')).filter fun w => w.head? != some ' '
  let parts := parts.takeWhile fun w => w.head? != some '#'
  let token ← match parts with
    | [['Y', 'A', 'M', 'L'], version] =>
        match version.span (· != '.') with
        | (major, '.' :: minor) =>
            if major.isEmpty || minor.isEmpty || !(major ++ minor).all Digits.isDecimal then none
            else some (Token.version major minor)
        | _ => none
    | [['T', 'A', 'G'], handle, stem] =>
        if handle.head? == some '!' && handle.getLast? == some '!' &&
            (handle.drop 1).dropLast.all isNameChar then
          (tagText? stem).map fun stem => Token.tagHandle (String.ofList handle) (String.ofList stem)
        else none
    | _ => none
  return { r with place := after, tokens := r.tokens.push token, keyAllowed := false }

/-! ### Reading -/

/-- Add a scalar and move past it. -/
def scalar (r : Reader) (text : List Char) (plain : Bool) (after : Place) (allowed : Bool) :
    Reader :=
  { r with
    place := after
    tokens := r.tokens.push (.scalar (String.ofList text) plain)
    keyAllowed := allowed }

def quoted? (r : Reader) (single : Bool) : Option Reader := do
  let r ← r.saveKey
  let (text, after) ← Yaml.quoted? single (r.place.rest.length + 1) (r.place.skip 1) []
  return r.scalar text false after false

def plain? (r : Reader) : Option Reader := do
  let r ← r.saveKey
  let (text, after, ended) ←
    Yaml.plain? (r.flow > 0) (r.indent + 1).toNat (r.place.rest.length + 1) r.place [] [] false
  return r.scalar text true after ended

def block? (r : Reader) (literal : Bool) : Option Reader := do
  let r ← r.dropKey
  let (text, after) ← Yaml.block? literal r.indent (r.place.skip 1)
  return r.scalar text false after true

/-- A plain scalar may begin with these characters. -/
def beginsPlain (flow : Bool) (cs : List Char) : Bool :=
  match cs with
  | [] => false
  | '-' :: c :: _ => !isSpace c
  | c :: rest =>
      if c = '?' || c = ':' then !flow && !endsWord rest
      else !(isSpace c || "-,[]\x7b\x7d#&*!|>'\"%@`".toList.contains c)

/-- Read one token that begins at the place. -/
def token? (r : Reader) : Option Reader :=
  match r.place.rest with
  | [] => none
  | c :: rest =>
      let flow := r.flow > 0
      if r.place.column == 0 && c = '%' then r.directive?
      else if r.place.atDocumentMark then do
        let r := closeBlocks (-1) r.outer r
        let r ← r.dropKey
        return { r.take 3 (if c = '-' then .documentStart else .documentEnd) with
          keyAllowed := false }
      else match c with
        | '[' => r.openFlow .flowSequenceStart
        | '{' => r.openFlow .flowMappingStart
        | ']' => r.closeFlow .flowSequenceEnd
        | '}' => r.closeFlow .flowMappingEnd
        | ',' => r.flowEntry
        | '*' => r.name? .alias
        | '&' => r.name? .anchor
        | '!' => r.tag?
        | '\'' => r.quoted? true
        | '"' => r.quoted? false
        | _ =>
            if c = '-' && endsWord rest then r.blockEntry
            else if c = '?' && (flow || endsWord rest) then r.explicitKey
            else if c = ':' && (flow || endsWord rest) then r.valueMark
            else if c = '|' && !flow then r.block? true
            else if c = '>' && !flow then r.block? false
            else if beginsPlain flow (c :: rest) then r.plain?
            else none

/-- Read tokens up to the end of the text. -/
def readAll : Nat → Reader → Option Reader
  | 0, _ => none
  | fuel + 1, r => do
      let r := skipBlanks (r.place.rest.length + 1) r
      let r ← r.dropStale
      let r := closeBlocks r.place.column r.outer r
      if r.place.rest.isEmpty then
        let r := closeBlocks (-1) r.outer r
        r.dropKey
      else readAll fuel (← r.token?)

end Reader

/-- The tokens of a text; none if it is malformed. -/
def tokens? (text : String) : Option (List Token) :=
  let cs := match text.toList with
    | '\ufeff' :: rest => rest
    | cs => cs
  if cs.all isAllowed then
    ((Reader.start cs).readAll (2 * cs.length + 2)).map fun r => r.tokens.toList
  else none

end VirtualService.Yaml
