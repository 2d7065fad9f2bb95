/-
  VirtualService/Script/Token.lean
  ================================
  **Script text as tokens.**

  Blanks and comments stand between tokens; comments between `/*` and `*/` nest.
  Of several marks that fit the longest is taken.  Words and marks that the
  language keeps to itself are refused.
-/
import VirtualService.Json.Parser
import VirtualService.Script.Syntax
import VirtualService.Text.Split

namespace VirtualService.Script

inductive Token where
  | word (name : String)
  | mark (name : String)
  | int (i : Int)
  | float (x : Float)
  | char (c : Char)
  | text (s : String)
deriving Inhabited

/-- The marks, the longer ones first. -/
def marks : List String := [
  "**=", "<<=", ">>=", "..=",
  "==", "!=", "<=", ">=", "&&", "||", "+=", "-=", "*=", "/=", "%=", "&=", "|=", "^=",
  "**", "<<", ">>", "..", "??", "?.", "?[", "=>", "#\x7b",
  "(", ")", "[", "]", "\x7b", "\x7d", ";", ",", ".", ":", "=", "<", ">", "+", "-", "*", "/", "%",
  "&", "|", "^", "!"]

/-- Marks that are refused. -/
def refusedMarks : List String :=
  ["===", "!==", "...", "->", "<-", ":=", "++", "--", "::", "(*", "*)", "~", "@", "#", "$", "?"]

/-- Words that are refused. -/
def refusedWords : List String :=
  ["var", "static", "shared", "goto", "exit", "match", "case", "public", "protected", "new", "use",
   "with", "is", "module", "package", "super", "thread", "spawn", "go", "await", "async", "sync",
   "yield", "default", "void", "null", "nil", "begin", "end", "import", "export", "as", "private"]

/-- The text after a block comment, which holds `depth` open marks. -/
def afterComment? : Nat → List Char → Option (List Char)
  | 0, cs => some cs
  | _, [] => none
  | depth + 1, '/' :: '*' :: cs => afterComment? (depth + 2) cs
  | depth + 1, '*' :: '/' :: cs => afterComment? depth cs
  | depth + 1, _ :: cs => afterComment? (depth + 1) cs

/-- The text after blanks and comments. -/
def skip? : Nat → List Char → Option (List Char)
  | 0, _ => none
  | fuel + 1, cs =>
      match cs.dropWhile Blank.isBlank with
      | '/' :: '/' :: rest => skip? fuel (rest.dropWhile (· ≠ '\n'))
      | '/' :: '*' :: rest =>
          match afterComment? 1 rest with
          | some rest => skip? fuel rest
          | none => none
      | rest => some rest

/-! ### Numbers -/

def isDigitOrGap (c : Char) : Bool := Digits.isDecimal c || c = '_'

/-- An integer of some base after its mark. -/
def basedInteger? (base : Nat) (cs : List Char) : Option (Token × List Char) :=
  let inside (c : Char) : Bool := c = '_' || ((Digits.hex? c).any fun d => d < base)
  let ds := (cs.takeWhile inside).filter (· ≠ '_')
  let n := ds.foldl (fun n c => n * base + (Digits.hex? c).getD 0) 0
  if ds.isEmpty || n ≥ twoTo 64 then none
  else some (.int (if n ≥ twoTo 63 then (n : Int) - twoTo 64 else n), cs.dropWhile inside)

/-- A decimal number; an integer beyond 64 bits is a float. -/
def decimalNumber (cs : List Char) : Token × List Char :=
  let whole := cs.takeWhile isDigitOrGap
  let rest := cs.dropWhile isDigitOrGap
  let (fraction, rest) := match rest with
    | '.' :: d :: more =>
        if Digits.isDecimal d then
          ('.' :: (d :: more).takeWhile isDigitOrGap, (d :: more).dropWhile isDigitOrGap)
        else ([], rest)
    | _ => ([], rest)
  let exponent : List Char × List Char := match rest with
    | e :: d :: more =>
        if e = 'e' || e = 'E' then
          if Digits.isDecimal d then
            (e :: (d :: more).takeWhile isDigitOrGap, (d :: more).dropWhile isDigitOrGap)
          else if d = '-' || d = '+' then
            let ds := more.takeWhile isDigitOrGap
            if ds.isEmpty then ([], rest) else (e :: d :: ds, more.dropWhile isDigitOrGap)
          else ([], rest)
        else ([], rest)
    | _ => ([], rest)
  let digits := (whole ++ fraction ++ exponent.1).filter (· ≠ '_')
  let n := Digits.value digits
  if fraction.isEmpty && exponent.1.isEmpty && n < twoTo 63 then (.int n, exponent.2)
  else (.float ((Digits.double? digits).getD Double.notANumber).toFloat, exponent.2)

def number? (cs : List Char) : Option (Token × List Char) :=
  match cs with
  | '0' :: c :: rest =>
      if c = 'x' || c = 'X' then basedInteger? 16 rest
      else if c = 'o' || c = 'O' then basedInteger? 8 rest
      else if c = 'b' || c = 'B' then basedInteger? 2 rest
      else some (decimalNumber cs)
  | _ => some (decimalNumber cs)

/-! ### Texts -/

/-- The character of a number of hexadecimal digits. -/
def hexChar? (width : Nat) (cs : List Char) : Option (Char × List Char) :=
  let ds := cs.take width
  let n := ds.foldl (fun n c => n * 16 + (Digits.hex? c).getD 0) 0
  if ds.length = width && ds.all (fun c => (Digits.hex? c).isSome) && n < 0x110000 &&
      !(0xD800 ≤ n && n ≤ 0xDFFF) then
    some (Char.ofNat n, cs.drop width)
  else none

/-- An escape after its backslash. -/
def escape? (quote : Char) (cs : List Char) : Option (Char × List Char) :=
  match cs with
  | 't' :: rest => some ('\t', rest)
  | 'n' :: rest => some ('\n', rest)
  | 'r' :: rest => some ('\r', rest)
  | '\\' :: rest => some ('\\', rest)
  | 'x' :: rest => hexChar? 2 rest
  | 'u' :: rest => hexChar? 4 rest
  | 'U' :: rest => hexChar? 8 rest
  | c :: rest => if c = quote then some (c, rest) else none
  | [] => none

/-- The characters up to a closing quote, on one line. -/
def quoted? (quote : Char) : Nat → List Char → Option (List Char × List Char)
  | 0, _ => none
  | _, [] => none
  | fuel + 1, c :: cs =>
      if c = quote then
        match cs with
        | d :: rest =>
            if d = quote && quote = '"' then
              (quoted? quote fuel rest).map fun (text, rest) => (quote :: text, rest)
            else some ([], cs)
        | [] => some ([], cs)
      else if c = '\n' then none
      else if c = '\\' then
        match escape? quote cs with
        | some (e, rest) => (quoted? quote fuel rest).map fun (text, rest) => (e :: text, rest)
        | none => none
      else (quoted? quote fuel cs).map fun (text, rest) => (c :: text, rest)

/-- The mark of raw texts. -/
def rawQuote : Char := Char.ofNat 96

/-! ### Tokens -/

def isWordStart (c : Char) : Bool := c.isAlpha || c = '_'

def isWordChar (c : Char) : Bool := c.isAlphanum || c = '_'

/-- The next token of a text that begins with no blank. -/
def nextToken? (cs : List Char) : Option (Token × List Char) :=
  match cs with
  | [] => none
  | c :: rest =>
      if isWordStart c then
        let name := String.ofList (cs.takeWhile isWordChar)
        if refusedWords.contains name then none
        else some (.word name, cs.dropWhile isWordChar)
      else if Digits.isDecimal c then number? cs
      else if c = '"' then
        (quoted? '"' (rest.length + 1) rest).map fun (text, rest) =>
          (.text (String.ofList text), rest)
      else if c = rawQuote then
        match rest.dropWhile (· ≠ rawQuote) with
        | _ :: after => some (.text (String.ofList (rest.takeWhile (· ≠ rawQuote))), after)
        | [] => none
      else if c = '\'' then
        match quoted? '\'' (rest.length + 1) rest with
        | some ([c], rest) => some (.char c, rest)
        | _ => none
      else
        let fits (m : String) : Bool := m.toList.isPrefixOf cs
        match marks.find? fits with
        | none => none
        | some m =>
            let refused := refusedMarks.any fun r => fits r && r.length > m.length
            if refused then none else some (.mark m, cs.drop m.length)

/-- The tokens of a script. -/
def tokens? : Nat → List Char → Option (List Token)
  | 0, _ => none
  | fuel + 1, cs =>
      match skip? (cs.length + 1) cs with
      | none => none
      | some [] => some []
      | some cs =>
          match nextToken? cs with
          | some (t, rest) => (tokens? fuel rest).map fun ts => t :: ts
          | none => none

end VirtualService.Script
