/-
  VirtualService/Regex/Parser.lean
  ================================
  **Reading patterns.**

  Patterns have no back-references and no look-around.  Flags set in a group hold
  to its end; a group may also carry flags of its own.  In verbose mode blanks and
  comments between the parts do not count.  Sets are written in brackets, nest,
  and combine by `&&`, `--` and `~~`.
-/
import VirtualService.Number.Digits
import VirtualService.Regex.Class
import VirtualService.Text.Split

namespace VirtualService.Regex

/-! ### Flags and state -/

structure Flags where
  caseless : Bool
  multiLine : Bool
  dotAll : Bool
  swapGreed : Bool
  unicode : Bool
  crlf : Bool
  verbose : Bool
deriving Repr, Inhabited

/-- What is left of the pattern, the flags in force and the group names already used. -/
structure State where
  rest : List Char
  flags : Flags
  names : List String
deriving Inhabited

/-- Set a flag by its letter. -/
def Flags.set? (f : Flags) (letter : Char) (on : Bool) : Option Flags :=
  match letter with
  | 'i' => some { f with caseless := on }
  | 'm' => some { f with multiLine := on }
  | 's' => some { f with dotAll := on }
  | 'U' => some { f with swapGreed := on }
  | 'u' => some { f with unicode := on }
  | 'R' => some { f with crlf := on }
  | 'x' => some { f with verbose := on }
  | _ => none

/-- Blanks and comments, which run to the end of their line. -/
def skipVerbose : Bool → List Char → List Char
  | _, [] => []
  | true, c :: cs => if c = '\n' then skipVerbose false cs else skipVerbose true cs
  | false, c :: cs =>
      if Blank.isBlank c then skipVerbose false cs
      else if c = '#' then skipVerbose true cs
      else c :: cs

/-- What is left after what does not count here. -/
def Flags.skip (f : Flags) (cs : List Char) : List Char := if f.verbose then skipVerbose false cs else cs

/-- The characters that a class stands for under the flags. -/
def Flags.fold (f : Flags) (set : CharClass) : CharClass :=
  if !f.caseless then set else if f.unicode then .folded set else .asciiFolded set

/-- Negate a class if asked to.  In bytes a class must stay within ASCII, or it could match a part of a
    character. -/
def Flags.negated? (f : Flags) (negate : Bool) (set : CharClass) : Option CharClass :=
  let whole := CharClass.negated negate set
  if f.unicode || !whole.has (Char.ofNat 0x80) then some whole else none

/-! ### Escapes -/

/-- What an escape stands for; `byte` is a character given by two digits, outside ASCII. -/
inductive Escape where
  | literal (c : Char)
  | byte (c : Char)
  | set (s : CharClass)
  | look (l : Look)

/-- The one character that an escape stands for. -/
def Escape.char? : Escape → Option Char
  | .literal c => some c
  | .byte c => some c
  | .set _ => none
  | .look _ => none

/-- Characters with a meaning of their own in patterns. -/
def isMeta (c : Char) : Bool := "\\.+*?()|[]\x7b\x7d^$#&-~".toList.contains c

/-- Characters that may follow a backslash and stand for themselves. -/
def isEscapable (c : Char) : Bool :=
  isMeta c || (c.toNat < 128 && !c.isAlphanum && c ≠ '<' && c ≠ '>')

/-- The character of a code point. -/
def charOf? (n : Nat) : Option Char :=
  if n < 0x110000 ∧ ¬ (0xD800 ≤ n ∧ n ≤ 0xDFFF) then some (Char.ofNat n) else none

/-- The value of hexadecimal digits. -/
def hexValue (ds : List Char) : Nat := ds.foldl (fun n c => n * 16 + (Digits.hex? c).getD 0) 0

/-- Take a number of characters, skipping what does not count after each. -/
def takeCounted (f : Flags) : Nat → List Char → List Char × List Char
  | 0, cs => ([], cs)
  | _, [] => ([], [])
  | n + 1, c :: cs =>
      let (taken, rest) := takeCounted f n (f.skip cs)
      (c :: taken, rest)

/-- The text up to a closing brace, with what does not count left out, and the text after it. -/
def braced? (f : Flags) : Nat → List Char → Option (List Char × List Char)
  | 0, _ => none
  | _, [] => none
  | fuel + 1, c :: cs =>
      if c = '\x7d' then some ([], cs)
      else (braced? f fuel (f.skip cs)).map fun (text, rest) => (c :: text, rest)

/-- A character by its code point: digits in braces or a fixed number of them. -/
def hexEscape? (f : Flags) (width : Nat) (cs : List Char) : Option (Escape × List Char) :=
  let isHex c := (Digits.hex? c).isSome
  match f.skip cs with
  | '\x7b' :: cs =>
      match braced? f (cs.length + 1) (f.skip cs) with
      | some (ds, rest) =>
          if ds.isEmpty || !ds.all isHex then none
          else (charOf? (hexValue ds)).map fun c => (.literal c, rest)
      | none => none
  | cs =>
      let (ds, rest) := takeCounted f width cs
      if ds.length = width && ds.all isHex then
        (charOf? (hexValue ds)).map fun c =>
          (if width = 2 && c.toNat ≥ 0x80 then .byte c else .literal c, rest)
      else none

/-- Split a text at a mark of two characters or of one. -/
def splitAtMark? (mark : List Char) : List Char → Option (List Char × List Char)
  | [] => none
  | c :: cs =>
      if mark.isPrefixOf (c :: cs) then some ([], (c :: cs).drop mark.length)
      else (splitAtMark? mark cs).map fun (before, after) => (c :: before, after)

/-- A property in braces: a name, or a name and a value. -/
def property? (f : Flags) (negate : Bool) (text : List Char) : Option CharClass :=
  match splitAtMark? ['!', '='] text with
  | some (name, value) =>
      (CharClass.ofPair? name value).map fun s => .negated (!negate) (f.fold s)
  | none =>
      match (splitAtMark? [':'] text).orElse fun _ => splitAtMark? ['='] text with
      | some (name, value) =>
          (CharClass.ofPair? name value).map fun s => .negated negate (f.fold s)
      | none => (CharClass.ofName? text).map fun s => .negated negate (f.fold s)

/-- A property after its letter. -/
def propertyEscape? (f : Flags) (negate : Bool) (cs : List Char) : Option (Escape × List Char) :=
  if !f.unicode then none
  else match f.skip cs with
    | '\x7b' :: cs =>
        match braced? f (cs.length + 1) (f.skip cs) with
        | some (text, rest) => (property? f negate text).map fun s => (.set s, rest)
        | none => none
    | '\\' :: _ => none
    | c :: rest => (property? f negate [c]).map fun s => (.set s, rest)
    | [] => none

/-- A word edge of a special kind in braces, or none if the braces hold something else. -/
def specialEdge? (f : Flags) (cs : List Char) : Option (Option (WordEdge × List Char)) :=
  let inside (c : Char) := c.isAlpha || c = '-'
  match cs with
  | '\x7b' :: rest =>
      match f.skip rest with
      | [] => none
      | c :: more =>
          if !inside c then some none
          else
            match braced? f (more.length + 2) (c :: more) with
            | none => none
            | some (word, rest) =>
                match String.ofList word with
                | "start" => some (some (.start, rest))
                | "end" => some (some (.stop, rest))
                | "start-half" => some (some (.startHalf, rest))
                | "end-half" => some (some (.stopHalf, rest))
                | _ => none
  | _ => some none

/-- An escape, after its backslash. -/
def escape? (f : Flags) (cs : List Char) : Option (Escape × List Char) :=
  match cs with
  | [] => none
  | c :: rest =>
      let perl (letter : Char) (negate : Bool) : Option (Escape × List Char) :=
        if f.unicode then
          (CharClass.ofLetter? letter).map fun s => (.set (.negated negate s), rest)
        else ((CharClass.asciiOfLetter? letter).bind (f.negated? negate)).map fun s => (.set s, rest)
      let edge (e : WordEdge) : Look := .word e (!f.unicode)
      if isEscapable c then some (.literal c, rest)
      else match c with
        | 'a' => some (.literal '\x07', rest)
        | 'f' => some (.literal '\x0c', rest)
        | 't' => some (.literal '\t', rest)
        | 'n' => some (.literal '\n', rest)
        | 'r' => some (.literal '\r', rest)
        | 'v' => some (.literal '\x0b', rest)
        | 'x' => hexEscape? f 2 rest
        | 'u' => hexEscape? f 4 rest
        | 'U' => hexEscape? f 8 rest
        | 'd' | 's' | 'w' => perl c false
        | 'D' | 'S' | 'W' => perl c.toLower true
        | 'p' => propertyEscape? f false rest
        | 'P' => propertyEscape? f true rest
        | 'A' => some (.look .textStart, rest)
        | 'z' => some (.look .textEnd, rest)
        | 'B' => some (.look (edge .noEdge), rest)
        | '<' => some (.look (edge .start), rest)
        | '>' => some (.look (edge .stop), rest)
        | 'b' =>
            match specialEdge? f rest with
            | none => none
            | some none => some (.look (edge .edge), rest)
            | some (some (special, rest)) => some (.look (edge special), rest)
        | _ => none

/-! ### Bracketed classes -/

/-- How two classes combine. -/
inductive ClassOp where
  | both
  | minus
  | either

/-- Combine what stands before an operator with what stands after it. -/
def ClassOp.combine (f : Flags) : ClassOp → CharClass → CharClass → CharClass
  | .both, a, b => .both (f.fold a) (f.fold b)
  | .minus, a, b => .minus (f.fold a) (f.fold b)
  | .either, a, b => .either (f.fold a) (f.fold b)

/-- What has been read of a class: the part before the last operator, and the members after it. -/
structure ClassParts where
  before : Option (ClassOp × CharClass)
  members : List CharClass

/-- The class of what has been read. -/
def ClassParts.close (f : Flags) (p : ClassParts) : CharClass :=
  match p.before with
  | none => .union p.members
  | some (op, a) => op.combine f a (.union p.members)

/-- Begin to read what stands after an operator. -/
def ClassParts.operator (f : Flags) (p : ClassParts) (op : ClassOp) : ClassParts :=
  ⟨some (op, p.close f), []⟩

def ClassParts.add (p : ClassParts) (s : CharClass) : ClassParts := { p with members := s :: p.members }

/-- A class of ASCII by name, after its opening bracket; outside, none if there is no such name. -/
def asciiClass? (f : Flags) (cs : List Char) : Option (Option (CharClass × List Char)) :=
  match cs with
  | ':' :: cs =>
      let (negate, cs) := match cs with
        | '^' :: rest => (true, rest)
        | _ => (false, cs)
      match cs.dropWhile (· ≠ ':') with
      | ':' :: ']' :: rest =>
          match CharClass.ofAsciiName? (String.ofList (cs.takeWhile (· ≠ ':'))) with
          | some set => some ((f.negated? negate (f.fold set)).map fun set => (set, rest))
          | none => none
      | _ => none
  | _ => none

/-- One member of a class before a possible range. -/
def member? (f : Flags) (cs : List Char) : Option (Escape × List Char) :=
  match cs with
  | '\\' :: rest => escape? f rest
  | c :: rest => some (.literal c, rest)
  | [] => none

/-- The one character that an escape stands for in a class; in bytes only ASCII can be in a class. -/
def Flags.member? (f : Flags) (e : Escape) : Option Char :=
  e.char?.filter fun c => f.unicode || c.toNat < 0x80

/-- A character, a set or a range in a class. -/
def range? (f : Flags) (cs : List Char) : Option (CharClass × List Char) :=
  match member? f cs with
  | none => none
  | some (first, rest) =>
      let alone : Option (CharClass × List Char) :=
        match first with
        | .set s => some (s, f.skip rest)
        | _ => (f.member? first).map fun c => (.single c, f.skip rest)
      match f.skip rest with
      | '-' :: more =>
          match f.skip more with
          | [] => none
          | ']' :: _ => alone
          | '-' :: _ => alone
          | next =>
              match f.member? first, member? f next with
              | some a, some (last, rest) =>
                  match f.member? last with
                  | some b => if a ≤ b then some (.range a b, rest) else none
                  | none => none
              | _, _ => none
      | [] => none
      | _ => alone

/-- Leading hyphens, which stand for themselves. -/
def hyphens (f : Flags) : Nat → List Char → Bool × List Char
  | 0, cs => (false, cs)
  | fuel + 1, '-' :: cs => (true, (hyphens f fuel (f.skip cs)).2)
  | _, cs => (false, cs)

mutual

/-- A class, after its opening bracket. -/
def class? : Nat → Flags → List Char → Option (CharClass × List Char)
  | 0, _, _ => none
  | fuel + 1, f, cs =>
      let cs := f.skip cs
      let (negate, cs) := match cs with
        | '^' :: rest => (true, f.skip rest)
        | _ => (false, cs)
      let (hyphen, cs) := hyphens f cs.length cs
      let start : List CharClass := if hyphen then [.single '-'] else []
      let (start, cs) := match hyphen, cs with
        | false, ']' :: rest => (CharClass.single ']' :: start, f.skip rest)
        | _, _ => (start, cs)
      match classBody? fuel f ⟨none, start⟩ cs with
      | some (set, rest) => (f.negated? negate (f.fold set)).map fun set => (set, rest)
      | none => none

/-- The members of a class up to its closing bracket. -/
def classBody? : Nat → Flags → ClassParts → List Char → Option (CharClass × List Char)
  | 0, _, _, _ => none
  | fuel + 1, f, parts, cs =>
      match f.skip cs with
      | [] => none
      | ']' :: rest => some (parts.close f, rest)
      | '[' :: rest =>
          match asciiClass? f rest with
          | some (some (set, rest)) => classBody? fuel f (parts.add set) rest
          | some none => none
          | none =>
              match class? fuel f rest with
              | some (set, rest) => classBody? fuel f (parts.add set) rest
              | none => none
      | '&' :: '&' :: rest => classBody? fuel f (parts.operator f .both) rest
      | '-' :: '-' :: rest => classBody? fuel f (parts.operator f .minus) rest
      | '~' :: '~' :: rest => classBody? fuel f (parts.operator f .either) rest
      | cs =>
          match range? f cs with
          | some (set, rest) => classBody? fuel f (parts.add set) rest
          | none => none

end

/-! ### Repetition -/

/-- A count within the bounds of repetition, with blanks around it. -/
def count? (cs : List Char) : Option Nat × List Char :=
  let cs := cs.dropWhile Blank.isBlank
  let digits := cs.takeWhile Digits.isDecimal
  let rest := (cs.dropWhile Digits.isDecimal).dropWhile Blank.isBlank
  (if digits.isEmpty || Digits.value digits > 4294967295 then none else some (Digits.value digits), rest)

/-- The bounds of a counted repetition, after its opening brace. -/
def bounds? (f : Flags) (cs : List Char) : Option (Nat × Option Nat × List Char) :=
  match count? (f.skip cs) with
  | (none, _) => none
  | (some least, rest) =>
      match rest with
      | '\x7d' :: rest => some (least, some least, rest)
      | ',' :: rest =>
          match f.skip rest with
          | '\x7d' :: rest => some (least, none, rest)
          | rest =>
              match count? rest with
              | (some most, '\x7d' :: rest) =>
                  if least ≤ most then some (least, some most, rest) else none
              | _ => none
      | _ => none

/-- A mark after a repetition makes it lazy. -/
def lazyMark (cs : List Char) : Bool × List Char :=
  match cs with
  | '?' :: rest => (true, rest)
  | _ => (false, cs)

/-! ### Groups -/

/-- The letters of a flag group up to its colon or parenthesis. -/
def flagLetters? (f : Flags) :
    List Char → Bool → List Char → Option (Flags × List Char × List Char)
  | [], _, _ => none
  | c :: cs, negative, seen =>
      if c = ':' || c = ')' then
        if seen.head? = some '-' then none else some (f, seen, c :: cs)
      else if seen.contains c then none
      else if c = '-' then flagLetters? f cs true (c :: seen)
      else match f.set? c (!negative) with
        | some f => flagLetters? f cs negative (c :: seen)
        | none => none

/-- Letters and digits of any script. -/
def isLetter (c : Char) : Bool := Property.alphabetic.has c

def isDigit (c : Char) : Bool := Category.number.has c

/-- A group name up to its closing bracket. -/
def groupName? (cs : List Char) : Option (String × List Char) :=
  let name := cs.takeWhile (· ≠ '>')
  let inside (c : Char) := c = '_' || c = '.' || c = '[' || c = ']' || isLetter c || isDigit c
  match name, cs.dropWhile (· ≠ '>') with
  | first :: more, _ :: rest =>
      if (first = '_' || isLetter first) && more.all inside then some (String.ofList name, rest) else none
  | _, _ => none

/-- What stands after an opening parenthesis. -/
inductive GroupStart where
  /-- A group in which the state holds. -/
  | group (state : State)
  /-- Flags for what follows. -/
  | flags (state : State)

/-- Read the start of a group, after its parenthesis. -/
def groupStart? (s : State) : Option GroupStart :=
  let cs := s.flags.skip s.rest
  let namedGroup (cs : List Char) : Option GroupStart :=
    match groupName? cs with
    | some (name, rest) =>
        if s.names.contains name then none
        else some (.group { s with rest := rest, names := name :: s.names })
    | none => none
  match cs with
  | '?' :: '=' :: _ => none
  | '?' :: '!' :: _ => none
  | '?' :: '<' :: '=' :: _ => none
  | '?' :: '<' :: '!' :: _ => none
  | '?' :: 'P' :: '<' :: rest => namedGroup rest
  | '?' :: '<' :: rest => namedGroup rest
  | '?' :: rest =>
      match flagLetters? s.flags rest false [] with
      | some (flags, _, ':' :: rest) => some (.group { s with rest := rest, flags := flags })
      | some (flags, seen, ')' :: rest) =>
          if seen.isEmpty then none else some (.flags { s with rest := rest, flags := flags })
      | _ => none
  | _ => some (.group { s with rest := cs })

/-! ### Patterns -/

/-- The dot: any character but the line ends, unless it stands for all. -/
def dot (f : Flags) : CharClass :=
  if f.dotAll then .range '\x00' (Char.ofNat 0x10FFFF)
  else if f.crlf then .complement (.union [.single '\n', .single '\r'])
  else .complement (.single '\n')

/-- The assertion of a caret. -/
def caret (f : Flags) : Look :=
  if f.multiLine then (if f.crlf then .crlfStart else .lineStart) else .textStart

/-- The assertion of a dollar sign. -/
def dollar (f : Flags) : Look :=
  if f.multiLine then (if f.crlf then .crlfEnd else .lineEnd) else .textEnd

/-- A part of one character or assertion; a byte outside ASCII is no character. -/
def ofEscape? (f : Flags) : Escape → Option Pattern
  | .literal c => some (.char (f.fold (.single c)))
  | .byte c => if f.unicode then some (.char (f.fold (.single c))) else none
  | .set s => some (.char s)
  | .look l => some (.look l)

/-- Repeat the part read last; flags cannot be repeated. -/
def repeatLast? (f : Flags) (parts : List (Option Pattern)) (least : Nat) (most : Option Nat)
    (lazy : Bool) : Option (List (Option Pattern)) :=
  match parts with
  | some body :: parts => some (some (.loop least most (lazy == f.swapGreed) body) :: parts)
  | _ => none

/-- The parts of a sequence, which were gathered last first. -/
def sequenceOf (parts : List (Option Pattern)) : Pattern :=
  match parts.reverse.filterMap id with
  | [] => .empty
  | [p] => p
  | ps => .sequence ps

mutual

/-- Alternatives up to the end of a group or of the pattern. -/
def choice? : Nat → State → Option (Pattern × State)
  | 0, _ => none
  | fuel + 1, s =>
      match alternatives? fuel s with
      | some ([p], s) => some (p, s)
      | some (ps, s) => some (.choice ps, s)
      | none => none

def alternatives? : Nat → State → Option (List Pattern × State)
  | 0, _ => none
  | fuel + 1, s =>
      match sequence? fuel [] s with
      | none => none
      | some (p, s) =>
          match s.rest with
          | '|' :: rest => (alternatives? fuel { s with rest := rest }).map fun (ps, s) => (p :: ps, s)
          | _ => some ([p], s)

/-- A sequence up to a bar or the end of the group; `parts` holds what was read, the last first. -/
def sequence? : Nat → List (Option Pattern) → State → Option (Pattern × State)
  | 0, _, _ => none
  | fuel + 1, parts, s =>
      let f := s.flags
      let goOn (p : Option Pattern) (rest : List Char) : Option (Pattern × State) :=
        sequence? fuel (p :: parts) { s with rest := rest }
      let repeated (least : Nat) (most : Option Nat) (rest : List Char) : Option (Pattern × State) :=
        let (lazy, rest) := lazyMark rest
        match repeatLast? f parts least most lazy with
        | some parts => sequence? fuel parts { s with rest := rest }
        | none => none
      match f.skip s.rest with
      | [] => some (sequenceOf parts, { s with rest := [] })
      | '|' :: rest => some (sequenceOf parts, { s with rest := '|' :: rest })
      | ')' :: rest => some (sequenceOf parts, { s with rest := ')' :: rest })
      | '(' :: rest =>
          match groupStart? { s with rest := rest } with
          | none => none
          | some (.flags s) => sequence? fuel (none :: parts) s
          | some (.group inner) =>
              match choice? fuel inner with
              | some (p, after) =>
                  match after.rest with
                  | ')' :: rest =>
                      sequence? fuel (some (.group p) :: parts)
                        { s with rest := rest, names := after.names }
                  | _ => none
              | none => none
      | '[' :: rest =>
          match class? (rest.length + 1) f rest with
          | some (set, rest) => goOn (some (.char set)) rest
          | none => none
      | '?' :: rest => repeated 0 (some 1) rest
      | '*' :: rest => repeated 0 none rest
      | '+' :: rest => repeated 1 none rest
      | '\x7b' :: rest =>
          match bounds? f rest with
          | some (least, most, rest) => repeated least most (f.skip rest)
          | none => none
      | '.' :: rest => if f.unicode then goOn (some (.char (dot f))) rest else none
      | '^' :: rest => goOn (some (.look (caret f))) rest
      | '$' :: rest => goOn (some (.look (dollar f))) rest
      | '\\' :: rest =>
          match escape? f rest with
          | some (e, rest) =>
              match ofEscape? f e with
              | some p => goOn (some p) rest
              | none => none
          | none => none
      | c :: rest => goOn (some (.char (f.fold (.single c)))) rest

end

/-- How deep a pattern may nest. -/
def maxNesting : Nat := 250

/-- The pattern that a text writes. -/
def Pattern.ofText? (text : String) (caseless : Bool) : Option Pattern :=
  let cs := text.toList
  let flags : Flags := ⟨caseless, false, false, false, true, false, false⟩
  match choice? (3 * cs.length + 3) ⟨cs, flags, []⟩ with
  | some (p, s) => if s.rest.isEmpty && p.depth ≤ maxNesting then some p else none
  | none => none

end VirtualService.Regex
